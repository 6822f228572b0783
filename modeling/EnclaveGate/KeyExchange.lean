import EnclaveGate.Wire.Key
import EnclaveGate.KeyTree

/-!
# Key exchange

Both sides multiply the peer's public key by their own secret key. The first coordinate of the
product, in wire form, is the root of the key tree. The long-term key signs both public keys, the
server's before the client's.
-/

namespace EnclaveGate.KeyExchange

/-- The shared coordinate in wire form. -/
def shared (mine : P256.SecretKey) (peer : P256.PublicKey) : Except Error (Block 32) :=
  Wire.encodeCoordinate (Bytes.beBytes 32 (mine.sharedCoordinate peer))

/-- The root of the key tree that both sides agree on. -/
def root (mine : P256.SecretKey) (peer : P256.PublicKey) : Except Error DerivedKey :=
  (shared mine peer).map KeyTree.root

/-- The message that the long-term key signs. -/
def transcript (gb ga : WireKey) : Bytes := gb.toBytes ++ ga.toBytes

/-- The signature of both public keys under the long-term key. -/
def sign (longTerm : P256.SecretKey) (gb ga : WireKey) : Except Error WireSignature :=
  match Ecdsa.sign? longTerm (transcript gb ga) with
  | some signature => WireSignature.encode signature
  | none => .error (.crypto .signing)

/-- Whether a signature of both public keys belongs to a long-term public key. -/
def verify (longTerm : P256.PublicKey) (gb ga : WireKey) (signature : Ecdsa.Signature) : Bool :=
  Ecdsa.verify longTerm (transcript gb ga) signature

end EnclaveGate.KeyExchange
