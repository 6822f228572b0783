import EnclaveGate.Proofs.Crypto.Ecdsa
import EnclaveGate.Proofs.Session.Offer
import EnclaveGate.Proofs.Wire.Canonical

/-!
# What both ends of an exchange find

Each end of an exchange has a secret key and receives the other end's public key in wire form. The
product of both scalars is no multiple of the order, so its multiple of the generator is a point, and
each end finds the first coordinate of this point from its own scalar and the key that it received.
Both ends write it in the same 32 bytes, however large it is, and span the same key tree over them.

The long-term key signs the server's public key before the client's, be they points of the curve or
not. The signature is read exactly if both of its numbers lie between zero and the order, and the one
that arrives verifies for this message.
-/

namespace EnclaveGate

/-! ## Both ends -/

namespace KeyExchange

open P256

/-- One end of an exchange: the secret key that it has, the public key that it sends, the one that it
receives, and the shared bytes over which it spans the key tree. -/
structure End (mine : SecretKey) (sent : WireKey) (own : PublicKey) (received : WireKey)
    (peer : PublicKey) (z : Block 32) : Prop where
  /-- The public key belongs to its secret key. -/
  belongs : mine.publicKey? = some own
  /-- It is the scalar's multiple of the generator. -/
  multiple : own.element = mine.scalar.val • PublicKey.base.element
  /-- It is sent in wire form. -/
  sends : WireKey.encode own = .ok sent
  /-- The peer's public key is read. -/
  reads : received.decode = .ok peer
  /-- The exchange yields the shared bytes. -/
  shares : KeyExchange.shared mine peer = .ok z
  /-- They are what the root of the key tree is made of. -/
  roots : KeyExchange.root mine peer = .ok (KeyTree.root z)
  /-- All keys hang below this root. -/
  derives : ∀ label : KeyLabel, (KeyExchange.root mine peer).map (KeyTree.derive · label) =
    .ok (KeyTree.derive (KeyTree.root z) label)

/-- What one end finds is determined by the product of both scalars. -/
theorem End.of_product {mine theirs : SecretKey} {own peer product : PublicKey}
    (hown : mine.publicKey? = some own) (hpeer : theirs.publicKey? = some peer)
    (hproduct : product.element =
      (mine.scalar.val * theirs.scalar.val) • PublicKey.base.element) :
    End mine own.wire own peer.wire peer (Block.ofNatLE 32 product.x) := by
  have hcoordinate : mine.sharedCoordinate peer = product.x :=
    SecretKey.sharedCoordinate_eq hpeer hproduct
  have hroot : KeyExchange.root mine peer = .ok (KeyTree.root (Block.ofNatLE 32 product.x)) := by
    rw [KeyExchange.root_eq, hcoordinate]
    rfl
  constructor
  case belongs => exact hown
  case multiple => exact SecretKey.publicKey?_eq_some_iff.mp hown
  case sends => exact WireKey.encode_eq own
  case reads => exact WireKey.decode_wire peer
  case shares => rw [KeyExchange.shared_eq, hcoordinate]
  case roots => exact hroot
  case derives =>
    intro label
    rw [hroot]
    rfl

/-- Whatever their secret keys, both ends of an exchange read what the other one sent, find the same
32 bytes and span the same key tree over them. The bytes hold the first coordinate of the multiple of
the generator by both scalars, least significant byte first. An exchange succeeds with every public
key. -/
theorem both_ends_agree (a b : SecretKey) :
    (∃ (ga gb : WireKey) (keyA keyB product : PublicKey) (z : Block 32),
      End a ga keyA gb keyB z ∧ End b gb keyB ga keyA z ∧
      product.element = (a.scalar.val * b.scalar.val) • PublicKey.base.element ∧
      z.natLE = product.x) ∧
    ∀ peer : PublicKey, ∃ z : Block 32, KeyExchange.shared a peer = .ok z ∧
      z.natLE = a.sharedCoordinate peer := by
  have hholds : ∀ c : Coordinate, (Block.ofNatLE 32 c).natLE = c.val := fun c =>
    (Block.ofNatLE_eq_iff (val_lt_bound c)).mp rfl
  constructor
  · obtain ⟨keyA, hA⟩ := a.exists_publicKey
    obtain ⟨keyB, hB⟩ := b.exists_publicKey
    obtain ⟨product, hproduct⟩ := SecretKey.exists_product a b
    refine ⟨keyA.wire, keyB.wire, keyA, keyB, product, Block.ofNatLE 32 product.x, ?_, ?_,
      hproduct, hholds product.x⟩
    · exact .of_product hA hB hproduct
    · rw [mul_comm] at hproduct
      exact .of_product hB hA hproduct
  · intro peer
    exact ⟨_, KeyExchange.shared_eq a peer, hholds _⟩

/-! ## Signatures -/

/-- Wire forms of signatures are read exactly if they are in range, every signature is written and
read back, and what a long-term key signs arrives as a signature of the server's key before the
client's that verifies under the public key. -/
theorem signatures_travel :
    Wire.Canonical WireSignature.encode WireSignature.decode WireSignature.InRange
      (.invalidFormat .signature) ∧
    (∀ (wire : WireSignature) (signature : Ecdsa.Signature), wire.decode = .ok signature →
      wire.r.natLE = signature.r ∧ wire.s.natLE = signature.s) ∧
    ∀ longTerm : P256.SecretKey, ∃ pub, longTerm.publicKey? = some pub ∧
      ∀ gb ga : WireKey, sign longTerm gb ga = .error (.crypto .signing) ∨
        ∃ wire signature, sign longTerm gb ga = .ok wire ∧ wire.decode = .ok signature ∧
          Ecdsa.verify pub (gb.toBytes ++ ga.toBytes) signature = true := by
  refine ⟨WireSignature.canonical, ?_, ?_⟩
  · intro wire signature h
    have hdenotes := WireSignature.decode_eq_ok_iff.mp h
    exact ⟨hdenotes.first, hdenotes.second⟩
  · intro longTerm
    obtain ⟨pub, hpub⟩ := longTerm.exists_publicKey
    refine ⟨pub, hpub, ?_⟩
    intro gb ga
    cases hs : Ecdsa.sign? longTerm (transcript gb ga) with
    | none => exact Or.inl (sign_error hs)
    | some signature =>
      exact Or.inr ⟨signature.wire, signature, sign_eq hs, WireSignature.decode_wire signature,
        Ecdsa.verify_of_sign? hpub hs⟩

end KeyExchange

end EnclaveGate
