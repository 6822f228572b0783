import EnclaveGate.Proofs.Crypto.Curve
import EnclaveGate.Proofs.Session.Forward
import EnclaveGate.Proofs.Wire.Codec

/-!
# What an answered message 1 settles

An answer to message 1 means that its key is a point of the curve, that an ephemeral key of ours was
drawn for it, and that the handshake that is kept holds both keys, the group, and the root and the
authentication key of the tree that both keys span. Where a key can be drawn and signing does not
fail, every point of the curve is answered.
-/

namespace EnclaveGate

/-- Message 1 and message 2 agree on a handshake. -/
structure Handshake.Settles (handshake : Handshake) (msg1 : Msg1) (msg2 : Msg2)
    (peer : P256.PublicKey) (ephemeral : P256.SecretKey) : Prop where
  /-- The key in message 1 is a point of the curve. -/
  point : msg1.ga.decode = .ok peer
  /-- The key in message 2 is that of our ephemeral key. -/
  ours : WireKey.ofSecret ephemeral = .ok msg2.gb
  /-- The key in message 1 is kept. -/
  ga : handshake.ga = msg1.ga
  /-- The key in message 2 is kept. -/
  gb : handshake.gb = msg2.gb
  /-- The group in message 1 is kept. -/
  groupId : handshake.groupId = msg1.groupId
  /-- The root of the key tree is that of both keys. -/
  kdk : KeyExchange.root ephemeral peer = .ok handshake.kdk
  /-- The authentication key is the one below the root. -/
  smk : handshake.smk = KeyTree.derive handshake.kdk .smk

variable {settings : Settings} {msg1 : Msg1}

/-- An offer under an ephemeral key takes all of its parts from both keys. -/
theorem Offer.withEphemeral_ok {peer : P256.PublicKey} {ephemeral : P256.SecretKey} {offer : Offer}
    (h : Offer.withEphemeral settings msg1 peer ephemeral = .ok offer) :
    ∃ gb kdk signature, WireKey.ofSecret ephemeral = .ok gb ∧
      KeyExchange.root ephemeral peer = .ok kdk ∧
      KeyExchange.sign settings.longTermKey gb msg1.ga = .ok signature ∧
      offer.handshake = { ga := msg1.ga, gb, groupId := msg1.groupId, kdk,
                          smk := KeyTree.derive kdk .smk } ∧
      offer.msg2 = Offer.authenticate (KeyTree.derive kdk .smk)
        (Offer.draft settings gb signature) := by
  unfold Offer.withEphemeral at h
  obtain ⟨gb, hgb, h⟩ := bind_ok h
  obtain ⟨kdk, hk, h⟩ := bind_ok h
  obtain ⟨signature, hs, h⟩ := bind_ok h
  have ho := Except.ok.inj h
  exact ⟨gb, kdk, signature, hgb, hk, hs, by rw [← ho], by rw [← ho]⟩

/-- An offer is made to a point of the curve under an ephemeral key that was drawn for it. -/
theorem Offer.make_ok {tape rest : Tape} {offer : Offer}
    (h : Offer.make settings msg1 tape = (.ok offer, rest)) :
    ∃ peer ephemeral, msg1.ga.decode = .ok peer ∧
      P256.SecretKey.draw? tape = some (ephemeral, rest) ∧
      Offer.withEphemeral settings msg1 peer ephemeral = .ok offer := by
  unfold Offer.make at h
  cases hd : msg1.ga.decode with
  | error e => simp [hd] at h
  | ok peer =>
    cases hx : P256.SecretKey.draw? tape with
    | none => simp [hd, hx] at h
    | some p =>
      obtain ⟨ephemeral, rest'⟩ := p
      simp only [hd, hx, Prod.mk.injEq] at h
      obtain ⟨ho, rfl⟩ := h
      exact ⟨peer, ephemeral, rfl, rfl, ho⟩

/-- The handshake of an offer is what both messages agree on, whatever the revocation list. -/
theorem Offer.settles {tape : Tape} {offer : Offer}
    (h : (Offer.make settings msg1 tape).1 = .ok offer) (sigRl : Bytes) :
    ∃ peer ephemeral,
      offer.handshake.Settles msg1 { offer.msg2 with sigRl } peer ephemeral := by
  obtain ⟨peer, ephemeral, hp, -, ho⟩ := Offer.make_ok (Prod.ext h rfl)
  obtain ⟨gb, kdk, signature, hgb, hk, -, hh, hm⟩ := Offer.withEphemeral_ok ho
  refine ⟨peer, ephemeral, ?_⟩
  have hgb2 : ({ offer.msg2 with sigRl } : Msg2).gb = gb := by rw [hm]; rfl
  constructor
  · exact hp
  · rw [hgb2, hgb]
  · rw [hh]
  · rw [hh, hgb2]
  · rw [hh]
  · rw [hh, hk]
  · rw [hh]

/-- A session waits for message 3 after message 1 only if message 1 was answered with an offer, whose
handshake it keeps, and what the offer left of the random bytes is left. -/
theorem Session.offer_of_process {session : Session} (h1 : session.phase = .awaitingMsg1)
    (authority : Authority) (tape : Tape) {handshake : Handshake}
    (h : (session.process settings authority tape (.msg1 msg1)).1.session.phase =
      .awaitingMsg3 handshake) :
    ∃ offer sigRl, Offer.make settings msg1 tape =
        (.ok offer, (session.begin settings tape (.msg1 msg1)).2) ∧
      offer.handshake = handshake ∧
      (session.process settings authority tape (.msg1 msg1)).1.result =
        .ok { offer.msg2 with sigRl } := by
  rcases Session.process_msg1_cases settings authority tape h1 msg1 with
    ⟨e, hs, -⟩ | ⟨offer, sigRl, hm, ho⟩
  · rw [hs] at h
    cases h
  · rw [ho] at h ⊢
    refine ⟨offer, sigRl, ?_, Phase.awaitingMsg3.inj h, rfl⟩
    have hmake : Offer.make settings msg1 tape = (.ok offer, (Offer.make settings msg1 tape).2) :=
      Prod.ext hm rfl
    simp only [Session.begin, Session.beginMsg1_of_awaiting settings tape h1]
    rw [hmake]
    cases settings.fetchSigRl <;> rfl

/-- A session waits for message 3 after message 1 only if message 1 was answered, with the handshake
that both messages agree on. -/
theorem Session.settles_of_process {session : Session} (h1 : session.phase = .awaitingMsg1)
    (authority : Authority) (tape : Tape) {handshake : Handshake}
    (h : (session.process settings authority tape (.msg1 msg1)).1.session.phase =
      .awaitingMsg3 handshake) :
    ∃ msg2 peer ephemeral, handshake.Settles msg1 msg2 peer ephemeral ∧
      (session.process settings authority tape (.msg1 msg1)).1.result = .ok msg2 := by
  obtain ⟨offer, sigRl, hm, rfl, hr⟩ := Session.offer_of_process h1 authority tape h
  obtain ⟨peer, ephemeral, hset⟩ := Offer.settles (congrArg Prod.fst hm) sigRl
  exact ⟨_, peer, ephemeral, hset, hr⟩

/-! ## Every point is answered -/

/-- The root of the key tree over a shared coordinate. -/
def KeyExchange.rootOf (c : P256.Coordinate) : DerivedKey := KeyTree.root (Block.ofNatLE 32 c)

/-- Every shared coordinate has a wire form. -/
theorem KeyExchange.shared_eq (mine : P256.SecretKey) (peer : P256.PublicKey) :
    KeyExchange.shared mine peer = .ok (Block.ofNatLE 32 (mine.sharedCoordinate peer)) := by
  have hnat : Bytes.natBE (Bytes.beBytes 32 (mine.sharedCoordinate peer)) =
      mine.sharedCoordinate peer := by
    rw [Bytes.natBE_beBytes, Nat.mod_eq_of_lt (P256.val_lt_bound _)]
  have hc := Wire.encodeCoordinate_eq (by
    rw [hnat]
    exact P256.val_lt_bound (mine.sharedCoordinate peer))
  rw [hnat] at hc
  exact hc

/-- Every exchange has a root. -/
theorem KeyExchange.root_eq (mine : P256.SecretKey) (peer : P256.PublicKey) :
    KeyExchange.root mine peer = .ok (KeyExchange.rootOf (mine.sharedCoordinate peer)) := by
  rw [KeyExchange.root, KeyExchange.shared_eq]
  rfl

/-- What signing computes. The whole function is opened here: opening its application would compute a
symbolic signature. -/
theorem KeyExchange.sign_def : KeyExchange.sign = fun longTerm gb ga =>
    match Ecdsa.sign? longTerm (KeyExchange.transcript gb ga) with
    | some signature => WireSignature.encode signature
    | none => .error (.crypto .signing) := rfl

/-- Every signature has a wire form, so signing fails only where there is no signature. -/
theorem KeyExchange.sign_eq {longTerm : P256.SecretKey} {gb ga : WireKey}
    {signature : Ecdsa.Signature}
    (h : Ecdsa.sign? longTerm (KeyExchange.transcript gb ga) = some signature) :
    KeyExchange.sign longTerm gb ga = .ok signature.wire := by
  rw [KeyExchange.sign_def]
  simp only [h]
  exact WireSignature.encode_eq signature

theorem KeyExchange.sign_error {longTerm : P256.SecretKey} {gb ga : WireKey}
    (h : Ecdsa.sign? longTerm (KeyExchange.transcript gb ga) = none) :
    KeyExchange.sign longTerm gb ga = .error (.crypto .signing) := by
  rw [KeyExchange.sign_def]
  simp only [h]

/-- The offer to an enclave under an ephemeral key whose public key is known, with a signature. -/
def Offer.between (settings : Settings) (msg1 : Msg1) (c : P256.Coordinate) (gb : WireKey)
    (signature : WireSignature) : Offer :=
  let kdk := KeyExchange.rootOf c
  let smk := KeyTree.derive kdk .smk
  ⟨⟨msg1.ga, gb, msg1.groupId, kdk, smk⟩, authenticate smk (draft settings gb signature)⟩

/-- An offer can be made under every ephemeral key with a public key, unless signing fails. -/
theorem Offer.withEphemeral_eq {peer key : P256.PublicKey} {ephemeral : P256.SecretKey}
    {signature : Ecdsa.Signature} (hk : ephemeral.publicKey? = some key)
    (hs : Ecdsa.sign? settings.longTermKey (KeyExchange.transcript key.wire msg1.ga) =
      some signature) :
    Offer.withEphemeral settings msg1 peer ephemeral =
      .ok (Offer.between settings msg1 (ephemeral.sharedCoordinate peer) key.wire
        signature.wire) := by
  rw [Offer.withEphemeral, bind_of_ok (WireKey.ofSecret_eq hk),
    bind_of_ok (KeyExchange.root_eq ephemeral peer), bind_of_ok (KeyExchange.sign_eq hs)]
  rfl

/-- A point of the curve is answered with an offer if an ephemeral key with a public key is drawn
and signing does not fail. -/
theorem Offer.make_eq {tape rest : Tape} {peer : P256.PublicKey} {ephemeral : P256.SecretKey}
    (hp : msg1.ga.decode = .ok peer)
    (hd : P256.SecretKey.draw? tape = some (ephemeral, rest)) :
    Offer.make settings msg1 tape = (withEphemeral settings msg1 peer ephemeral, rest) := by
  simp only [Offer.make, hp, hd]

/-- The processing of message 1 draws an ephemeral key and nothing else. -/
theorem Session.tape_beginMsg1 {session : Session} {tape rest : Tape} {peer : P256.PublicKey}
    {ephemeral : P256.SecretKey} (h : session.phase = .awaitingMsg1)
    (hp : msg1.ga.decode = .ok peer)
    (hd : P256.SecretKey.draw? tape = some (ephemeral, rest)) :
    (session.beginMsg1 settings msg1 tape).2 = rest := by
  rw [Session.beginMsg1_of_awaiting settings tape h, Offer.make_eq hp hd]
  cases Offer.withEphemeral settings msg1 peer ephemeral with
  | error e => rfl
  | ok offer => cases settings.fetchSigRl <;> simp

/-! ## The smallest exchange -/

/-- The secret key one. -/
def P256.SecretKey.one : P256.SecretKey := ⟨1, by decide⟩

theorem P256.SecretKey.publicKey?_one : one.publicKey? = some .base := by decide +kernel

/-- Signing the keys of the exchange in which every secret key is one does not fail. -/
theorem sign_one_isSome :
    (Ecdsa.sign? .one (KeyExchange.transcript P256.PublicKey.base.wire
      P256.PublicKey.base.wire)).isSome = true := by
  set_option maxRecDepth 100000 in
  decide +kernel

/-- The signature of the keys of the exchange in which every secret key is one. -/
def Ecdsa.Signature.one : Ecdsa.Signature :=
  (Ecdsa.sign? .one (KeyExchange.transcript P256.PublicKey.base.wire
    P256.PublicKey.base.wire)).get sign_one_isSome

theorem sign_one :
    Ecdsa.sign? .one (KeyExchange.transcript P256.PublicKey.base.wire
      P256.PublicKey.base.wire) = some .one :=
  (Option.some_get sign_one_isSome).symm

/-- Message 1 of the exchange in which every secret key is one. -/
def Msg1.one : Msg1 := ⟨1, Block.zero 4, P256.PublicKey.base.wire⟩

/-- A message 1 whose key is no point of the curve. -/
def Msg1.offCurve : Msg1 := ⟨1, Block.zero 4, ⟨Block.zero 32, Block.zero 32⟩⟩

namespace Tape

/-- A tape with a challenge, the id one, the secret key one and a vector. -/
def one : Tape :=
  ⟨List.replicate 32 0 ++ Bytes.leBytes 8 1 ++ Bytes.beBytes 32 1 ++ List.replicate 12 0⟩

/-- What is left of it when a session was opened. -/
def opened : Tape := ⟨Bytes.beBytes 32 1 ++ List.replicate 12 0⟩

/-- What is left of it when the secret key was drawn. -/
def drawn : Tape := ⟨List.replicate 12 0⟩

/-- A tape with a challenge and the id one. -/
def oneSession : Tape := ⟨List.replicate 32 0 ++ 1 :: List.replicate 7 0⟩

theorem draw?_opened : P256.SecretKey.draw? opened = some (.one, drawn) := by decide +kernel

end Tape

end EnclaveGate
