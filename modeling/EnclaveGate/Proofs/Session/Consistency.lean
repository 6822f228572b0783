import EnclaveGate.Proofs.Crypto.Ecdsa
import EnclaveGate.Proofs.Session.Offer

/-!
# What a handshake consists of

Message 2 is put together in stages while the handshake is kept beside it. Both come from the same
scalar: the key in message 2 is its multiple of the generator, the root of the key tree its multiple
of the enclave's point, the authentication key hangs below this root and authenticates message 2 as it
is sent, and the signature in it is one of both keys.
-/

namespace EnclaveGate

/-- A handshake, both its messages, the enclave's point and our scalar belong together. -/
structure Handshake.Consistent (settings : Settings) (handshake : Handshake) (msg1 : Msg1)
    (msg2 : Msg2) (peer : P256.PublicKey) (ephemeral : P256.SecretKey) : Prop where
  /-- The key in message 1 is kept. -/
  ga : handshake.ga = msg1.ga
  /-- The group in message 1 is kept. -/
  groupId : handshake.groupId = msg1.groupId
  /-- The key in message 2 is kept. -/
  gb : handshake.gb = msg2.gb
  /-- The key in message 1 is the point, which lies on the curve. -/
  point : msg1.ga.decode = .ok peer
  /-- The key in message 2 is the wire form of our scalar's multiple of the generator. -/
  ours : ∃ x y, P256.generator.multiple ephemeral.scalar = .affine x y ∧
    msg2.gb = ⟨Block.ofNatLE 32 x, Block.ofNatLE 32 y⟩
  /-- The root of the key tree is the code of the first coordinate of our scalar's multiple of the
  point, least significant byte first, under the zero key. -/
  kdk : handshake.kdk.bytes = Cmac.mac (Block.zero 16)
    (Block.ofNatLE 32 (peer.point.multiple ephemeral.scalar).xCoordinate).toList
  /-- The authentication key is the code of its derivation string under the root. -/
  smk : handshake.smk.bytes = Cmac.mac handshake.kdk.bytes [0x01, 0x53, 0x4d, 0x4b, 0x00, 0x80, 0x00]
  /-- Message 2 says what the settings say. -/
  configured : msg2.spid = settings.spid ∧ msg2.quoteType = settings.quoteType ∧ msg2.kdfId = 1
  /-- The authentication code of message 2 is that of its fields under the authentication key. -/
  authentic : msg2.cmac = Cmac.mac handshake.smk.bytes (msg2.gb.toBytes ++ msg2.spid.toList ++
    Bytes.leBytes 2 msg2.quoteType.toUInt16.toNat ++ Bytes.leBytes 2 msg2.kdfId.toNat ++
    msg2.signature.toBytes)
  /-- The signature in message 2 is one of both keys under the long-term key. -/
  signed : ∃ longTerm signature, settings.longTermKey.publicKey? = some longTerm ∧
    msg2.signature.decode = .ok signature ∧
    Ecdsa.verify longTerm (msg2.gb.toBytes ++ msg1.ga.toBytes) signature = true

/-- The point of a public key is the scalar's multiple of the generator. -/
theorem P256.SecretKey.multiple_of_publicKey? {secret : P256.SecretKey} {key : P256.PublicKey}
    (h : secret.publicKey? = some key) :
    P256.generator.multiple secret.scalar = .affine key.x key.y := by
  rw [P256.SecretKey.publicKey?] at h
  generalize P256.generator.multiple secret.scalar = p at h
  cases p with
  | infinity => cases h
  | affine x y =>
    simp only [P256.PublicKey.ofPoint?, P256.PublicKey.ofCoordinates?] at h
    split at h
    · cases h
      rfl
    · cases h

/-- What signing yields is the wire form of a signature that verifies. -/
theorem KeyExchange.sign_ok {longTerm : P256.SecretKey} {gb ga : WireKey} {wire : WireSignature}
    (h : KeyExchange.sign longTerm gb ga = .ok wire) :
    ∃ pub signature, longTerm.publicKey? = some pub ∧ wire.decode = .ok signature ∧
      Ecdsa.verify pub (KeyExchange.transcript gb ga) signature = true := by
  obtain ⟨pub, hpub⟩ := longTerm.exists_publicKey
  rw [KeyExchange.sign_def] at h
  dsimp only at h
  split at h
  · rename_i signature hs
    rw [WireSignature.encode_eq] at h
    cases h
    exact ⟨pub, signature, hpub, WireSignature.decode_wire signature, Ecdsa.verify_of_sign? hpub hs⟩
  · cases h

/-- The bytes of the authentication key below a root. -/
theorem KeyTree.bytes_smk (root : DerivedKey) :
    (KeyTree.derive root .smk).bytes =
      Cmac.mac root.bytes [0x01, 0x53, 0x4d, 0x4b, 0x00, 0x80, 0x00] := rfl

/-- The bytes of the root over a shared coordinate. -/
theorem KeyExchange.bytes_rootOf (c : P256.Coordinate) :
    (KeyExchange.rootOf c).bytes = Cmac.mac (Block.zero 16) (Block.ofNatLE 32 c).toList := rfl

/-- The authentication code covers the fields of message 2 as they are sent. -/
theorem Offer.cmac_authenticate (smk : DerivedKey) (msg2 : Msg2) :
    (authenticate smk msg2).cmac = smk.mac (authenticate smk msg2).payload := rfl

/-- A handshake belongs together with message 2 whatever the revocation list in it. -/
theorem Handshake.Consistent.withSigRl {settings : Settings} {handshake : Handshake} {msg1 : Msg1}
    {msg2 : Msg2} {peer : P256.PublicKey} {ephemeral : P256.SecretKey}
    (h : handshake.Consistent settings msg1 msg2 peer ephemeral) (sigRl : Bytes) :
    handshake.Consistent settings msg1 { msg2 with sigRl } peer ephemeral :=
  ⟨h.ga, h.groupId, h.gb, h.point, h.ours, h.kdk, h.smk, h.configured, h.authentic, h.signed⟩

variable {settings : Settings} {msg1 : Msg1}

/-- The handshake of an offer belongs together with both messages. -/
theorem Offer.consistent {peer : P256.PublicKey} {ephemeral : P256.SecretKey} {offer : Offer}
    (hpeer : msg1.ga.decode = .ok peer)
    (h : Offer.withEphemeral settings msg1 peer ephemeral = .ok offer) :
    offer.handshake.Consistent settings msg1 offer.msg2 peer ephemeral := by
  obtain ⟨gb, kdk, signature, hgb, hkdk, hsign, hh, hm⟩ := Offer.withEphemeral_ok h
  obtain ⟨key, hkey⟩ := ephemeral.exists_publicKey
  rw [WireKey.ofSecret_eq hkey] at hgb
  rw [KeyExchange.root_eq] at hkdk
  cases hgb
  constructor
  case ga => rw [hh]
  case groupId => rw [hh]
  case gb =>
    rw [hh, hm]
    rfl
  case point => exact hpeer
  case ours =>
    refine ⟨key.x, key.y, P256.SecretKey.multiple_of_publicKey? hkey, ?_⟩
    rw [hm]
    rfl
  case kdk =>
    rw [hh, ← Except.ok.inj hkdk]
    exact KeyExchange.bytes_rootOf _
  case smk =>
    rw [hh]
    exact KeyTree.bytes_smk _
  case configured =>
    rw [hm]
    exact ⟨rfl, rfl, rfl⟩
  case authentic =>
    rw [hh, hm, Offer.cmac_authenticate, DerivedKey.mac, Msg2.payload]
  case signed =>
    obtain ⟨longTerm, sig, hlong, hdecode, hverify⟩ := KeyExchange.sign_ok hsign
    refine ⟨longTerm, sig, hlong, ?_, ?_⟩
    · rw [hm]
      exact hdecode
    · rw [hm]
      exact hverify

/-- A session that waits for message 3 after message 1 keeps a handshake that belongs together with
both messages, and the scalar is all that was drawn. -/
theorem Session.consistent_of_process {session : Session} (h1 : session.phase = .awaitingMsg1)
    (authority : Authority) (tape : Tape) {handshake : Handshake}
    (h : (session.process settings authority tape (.msg1 msg1)).1.session.phase =
      .awaitingMsg3 handshake) :
    ∃ msg2 peer ephemeral,
      (session.process settings authority tape (.msg1 msg1)).1.result = .ok msg2 ∧
      handshake.Consistent settings msg1 msg2 peer ephemeral ∧
      P256.SecretKey.draw? tape =
        some (ephemeral, (session.begin settings tape (.msg1 msg1)).2) := by
  obtain ⟨offer, sigRl, hm, rfl, hr⟩ := Session.offer_of_process h1 authority tape h
  obtain ⟨peer, ephemeral, hp, hd, ho⟩ := Offer.make_ok hm
  exact ⟨_, peer, ephemeral, hr, (Offer.consistent hp ho).withSigRl sigRl, hd⟩

end EnclaveGate
