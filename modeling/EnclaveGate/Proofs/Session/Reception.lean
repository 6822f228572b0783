import EnclaveGate.Proofs.Session.Consistency
import EnclaveGate.Proofs.Session.Rejection

/-!
# How message 1 is received

A session that awaits message 1 answers it, or refuses it for one of three reasons, which are tried
in a fixed order: its key is no point of the curve, the long-term key yields no signature, or the
revocation list is wanted and the authority fails. Nothing else can go wrong, since every coordinate
and every scalar fits into its wire form. What both sides agree on depends on the key and on the
random bytes; the authority has no part in it.
-/

namespace EnclaveGate

/-- The long-term key yields a signature of our ephemeral key and the peer's. Without one, a scalar
of the signature came out zero. -/
def KeyExchange.Signs (longTerm ephemeral : P256.SecretKey) (ga : WireKey) : Prop :=
  ∃ gb signature, WireKey.ofSecret ephemeral = .ok gb ∧
    Ecdsa.sign? longTerm (gb.toBytes ++ ga.toBytes) = some signature

variable {settings settings' : Settings} {msg1 message : Msg1} {tape rest rest' : Tape}

/-- An offer to a point can be made, or there is no signature for it. -/
theorem Offer.withEphemeral_cases (settings : Settings) (msg1 : Msg1) (peer : P256.PublicKey)
    (ephemeral : P256.SecretKey) :
    (KeyExchange.Signs settings.longTermKey ephemeral msg1.ga ∧
      ∃ offer, withEphemeral settings msg1 peer ephemeral = .ok offer) ∨
    (¬ KeyExchange.Signs settings.longTermKey ephemeral msg1.ga ∧
      withEphemeral settings msg1 peer ephemeral = .error (.crypto .signing)) := by
  obtain ⟨key, hkey⟩ := ephemeral.exists_publicKey
  have hgb := WireKey.ofSecret_eq hkey
  cases hs : Ecdsa.sign? settings.longTermKey (KeyExchange.transcript key.wire msg1.ga) with
  | some signature =>
    exact Or.inl ⟨⟨key.wire, signature, hgb, hs⟩, _, withEphemeral_eq hkey hs⟩
  | none =>
    refine Or.inr ⟨?_, ?_⟩
    · rintro ⟨gb, signature, hgb', hs'⟩
      have heq : key.wire = gb := Except.ok.inj (hgb.symm.trans hgb')
      subst heq
      exact Option.some_ne_none signature (hs'.symm.trans hs)
    · rw [withEphemeral, bind_of_ok hgb, bind_of_ok (KeyExchange.root_eq ephemeral peer),
        KeyExchange.sign_error hs]
      rfl

/-- Offers to the same key from the same random bytes differ in the group only. -/
theorem Offer.make_same {offer offer' : Offer} (h : make settings msg1 tape = (.ok offer, rest))
    (h' : make settings' message tape = (.ok offer', rest')) (hga : message.ga = msg1.ga)
    (hspid : settings'.spid = settings.spid) (hkey : settings'.longTermKey = settings.longTermKey)
    (hquote : settings'.quoteType = settings.quoteType) :
    offer' = ⟨{ offer.handshake with groupId := message.groupId }, offer.msg2⟩ := by
  obtain ⟨peer, ephemeral, hp, hd, ho⟩ := make_ok h
  obtain ⟨peer', ephemeral', hp', hd', ho'⟩ := make_ok h'
  obtain ⟨gb, kdk, signature, hgb, hkdk, hs, hh, hm⟩ := withEphemeral_ok ho
  obtain ⟨gb', kdk', signature', hgb', hkdk', hs', hh', hm'⟩ := withEphemeral_ok ho'
  rw [hga, hp] at hp'
  cases hp'
  rw [hd] at hd'
  cases hd'
  rw [hgb] at hgb'
  cases hgb'
  rw [hkdk] at hkdk'
  cases hkdk'
  rw [hga, hkey, hs] at hs'
  cases hs'
  have handshake : offer'.handshake = { offer.handshake with groupId := message.groupId } := by
    rw [hh', hh, hga]
  have msg2 : offer'.msg2 = offer.msg2 := by
    rw [hm', hm, draft, draft, hspid, hquote]
  rw [← handshake, ← msg2]

namespace Session

/-! ## Every way of reception -/

/-- How message 1 is received by a session that awaits it: what the authority was asked, what came of
the processing, and which random bytes are left. -/
inductive Reception (settings : Settings) (authority : Authority) (id : SessionId) (msg1 : Msg1)
    (ephemeral : P256.SecretKey) (tape behind : Tape) :
    Option Question → Outcome Msg2 × Tape → Prop
  /-- The key is no point of the curve. -/
  | foreign (h : ¬ msg1.ga.IsCanonical) (events : List Event) :
    Reception settings authority id msg1 ephemeral tape behind none
      (⟨⟨id, .failed⟩, .error .invalidPublicKey, events⟩, tape)
  /-- There is no signature. -/
  | unsigned (h : msg1.ga.IsCanonical)
    (hs : ¬ KeyExchange.Signs settings.longTermKey ephemeral msg1.ga) (events : List Event) :
    Reception settings authority id msg1 ephemeral tape behind none
      (⟨⟨id, .failed⟩, .error (.crypto .signing), events⟩, behind)
  /-- Message 1 is answered at once. -/
  | answered (h : msg1.ga.IsCanonical)
    (hs : KeyExchange.Signs settings.longTermKey ephemeral msg1.ga) (offer : Offer)
    (ho : Offer.make settings msg1 tape = (.ok offer, behind)) (off : settings.fetchSigRl = false) :
    Reception settings authority id msg1 ephemeral tape behind none
      (accept ⟨id, .awaitingMsg1⟩ offer [], behind)
  /-- The list comes in time, and message 1 is answered. -/
  | supplied (h : msg1.ga.IsCanonical)
    (hs : KeyExchange.Signs settings.longTermKey ephemeral msg1.ga) (offer : Offer)
    (ho : Offer.make settings msg1 tape = (.ok offer, behind)) (on : settings.fetchSigRl = true)
    (list : Bytes)
    (reply : (authority.revocationList msg1.groupId).within settings.authorityTimeout = .ok list) :
    Reception settings authority id msg1 ephemeral tape behind
      (some (.revocationList msg1.groupId)) (accept ⟨id, .awaitingMsg1⟩ offer list, behind)
  /-- The list does not come. -/
  | unsupplied (h : msg1.ga.IsCanonical)
    (hs : KeyExchange.Signs settings.longTermKey ephemeral msg1.ga)
    (on : settings.fetchSigRl = true) (e : Error)
    (reply : (authority.revocationList msg1.groupId).within settings.authorityTimeout = .error e)
    (events : List Event) :
    Reception settings authority id msg1 ephemeral tape behind
      (some (.revocationList msg1.groupId)) (⟨⟨id, .failed⟩, .error e, events⟩, behind)

theorem asks_msg1 (session : Session) (settings : Settings) (tape : Tape) (msg1 : Msg1) :
    session.asks settings tape (.msg1 msg1) =
      match (session.beginMsg1 settings msg1 tape).1 with
      | .finished _ => none
      | .asking offer => some (.revocationList offer.handshake.groupId) := by
  rw [asks, Session.begin]
  rcases session.beginMsg1 settings msg1 tape with ⟨outcome | offer, rest⟩ <;> rfl

/-- Message 1 is received in one of the five ways where an ephemeral key can be drawn. -/
theorem msg1_reception (settings : Settings) (authority : Authority) (id : SessionId) (msg1 : Msg1)
    {ephemeral : P256.SecretKey} {tape behind : Tape}
    (hd : P256.SecretKey.draw? tape = some (ephemeral, behind)) :
    Reception settings authority id msg1 ephemeral tape behind
      (asks settings ⟨id, .awaitingMsg1⟩ tape (.msg1 msg1))
      (process settings authority ⟨id, .awaitingMsg1⟩ tape (.msg1 msg1)) := by
  rw [asks_msg1, process_msg1, beginMsg1_of_awaiting settings tape rfl]
  rcases msg1.ga.decode_cases with ⟨h, peer, hp⟩ | ⟨h, hp⟩
  · have hmake : Offer.make settings msg1 tape =
        (Offer.withEphemeral settings msg1 peer ephemeral, behind) := Offer.make_eq hp hd
    rcases Offer.withEphemeral_cases settings msg1 peer ephemeral with ⟨hs, offer, ho⟩ | ⟨hs, ho⟩
    · rw [ho] at hmake
      obtain ⟨gb, kdk, signature, -, -, -, hh, -⟩ := Offer.withEphemeral_ok ho
      have hgroup : offer.handshake.groupId = msg1.groupId := by rw [hh]
      rw [hmake]
      cases hf : settings.fetchSigRl with
      | false => exact .answered h hs offer hmake hf
      | true =>
        simp only [if_true, hgroup]
        cases reply : (authority.revocationList msg1.groupId).within settings.authorityTimeout with
        | ok list => exact .supplied h hs offer hmake hf list reply
        | error e => exact .unsupplied h hs hf e reply _
    · rw [hmake, ho]
      exact .unsigned h hs _
  · have hmake : Offer.make settings msg1 tape = (.error .invalidPublicKey, tape) := by
      simp only [Offer.make, hp]
    rw [hmake]
    exact .foreign h _

/-! ## Exact outcome -/

section

variable (settings : Settings) (authority : Authority) (msg1 : Msg1) (ephemeral : P256.SecretKey)

/-- The key is a point, there is a signature, and the revocation list is not wanted or comes in
time. -/
structure Answerable : Prop where
  /-- The key is a point of the curve. -/
  canonical : msg1.ga.IsCanonical
  /-- There is a signature. -/
  signs : KeyExchange.Signs settings.longTermKey ephemeral msg1.ga
  /-- The revocation list is not wanted, or comes in time. -/
  supplied : settings.fetchSigRl = false ∨ ∃ list,
    (authority.revocationList msg1.groupId).delay ≤ settings.authorityTimeout ∧
    (authority.revocationList msg1.groupId).answer = .ok list

/-- The key is a point and there is a signature, but the authority fails to name the list that is
wanted, or its time is up. -/
structure Unsupplied (e : Error) : Prop where
  /-- The key is a point of the curve. -/
  canonical : msg1.ga.IsCanonical
  /-- There is a signature. -/
  signs : KeyExchange.Signs settings.longTermKey ephemeral msg1.ga
  /-- The revocation list is wanted. -/
  wanted : settings.fetchSigRl = true
  /-- The authority fails, or its time is up. -/
  failure : (authority.revocationList msg1.groupId).FailsWith settings.authorityTimeout e

/-- A session that awaits message 1 answers it, or refuses it, for exactly the right reasons. -/
structure AnswersExactly (id : SessionId) (tape behind : Tape) (asked : Option Question)
    (outcome : Outcome Msg2) (rest : Tape) : Prop where
  /-- An invalid key is reported, and nobody is asked, where the key is no point. -/
  foreign : asked = none ∧ outcome.result = .error .invalidPublicKey ↔ ¬ msg1.ga.IsCanonical
  /-- This failure alone tells it, too, unless it is how the authority itself fails. -/
  plain : ¬ Unsupplied settings authority msg1 ephemeral .invalidPublicKey →
    (outcome.result = .error .invalidPublicKey ↔ ¬ msg1.ga.IsCanonical)
  /-- For such a key nothing is drawn, and for a point one ephemeral key is. -/
  drawn : (¬ msg1.ga.IsCanonical → rest = tape) ∧ (msg1.ga.IsCanonical → rest = behind)
  /-- A failure to sign is reported, and nobody is asked, where there is no signature. -/
  unsigned : asked = none ∧ outcome.result = .error (.crypto .signing) ↔
    msg1.ga.IsCanonical ∧ ¬ KeyExchange.Signs settings.longTermKey ephemeral msg1.ga
  /-- Message 1 is answered where this is possible. -/
  answered : (∃ msg2, outcome.result = .ok msg2) ↔
    Answerable settings authority msg1 ephemeral
  /-- The failure of the authority, or that its time is up, is reported where this is the case. -/
  unsupplied : ∀ e, asked = some (.revocationList msg1.groupId) ∧ outcome.result = .error e ↔
    Unsupplied settings authority msg1 ephemeral e
  /-- Nothing else is ever reported. -/
  only : ∀ e, outcome.result = .error e → e = .invalidPublicKey ∨ e = .crypto .signing ∨
    Unsupplied settings authority msg1 ephemeral e
  /-- Every failure ends the session. -/
  ended : ∀ e, outcome.result = .error e → outcome.session = ⟨id, .failed⟩
  /-- After every answer, which says what the settings and the authority say, message 3 is awaited. -/
  proceeds : ∀ msg2, outcome.result = .ok msg2 →
    (∃ handshake, outcome.session = ⟨id, .awaitingMsg3 handshake⟩) ∧
    msg2.spid = settings.spid ∧ msg2.quoteType = settings.quoteType ∧ msg2.kdfId = 1 ∧
    (settings.fetchSigRl = false → msg2.sigRl = []) ∧
    (settings.fetchSigRl = true → (authority.revocationList msg1.groupId).answer = .ok msg2.sigRl)

/-- Whoever the authority is and whether or not it is asked: every answer to a key from these random
bytes is the same but for the revocation list, and the same handshake is kept but for the group. -/
def SettledByKey (ga : WireKey) (tape : Tape) : Prop :=
  ∃ (answer : Msg2) (handshake : Handshake), ∀ (authority : Authority) (fetchSigRl : Bool)
    (authorityTimeout : Nat) (id : SessionId) (msg1 : Msg1), msg1.ga = ga →
    let outcome := (process { settings with fetchSigRl, authorityTimeout } authority
      ⟨id, .awaitingMsg1⟩ tape (.msg1 msg1)).1
    ∀ msg2, outcome.result = .ok msg2 → msg2 = { answer with sigRl := msg2.sigRl } ∧
      outcome.session = ⟨id, .awaitingMsg3 { handshake with groupId := msg1.groupId }⟩

end

variable {authority : Authority} {id : SessionId} {ephemeral : P256.SecretKey} {behind : Tape}
  {asked : Option Question} {outcome : Outcome Msg2}

/-- Every answer is an offer with a revocation list, and its handshake is kept. -/
theorem Reception.offer (h : Reception settings authority id msg1 ephemeral tape behind asked
    (outcome, rest)) {msg2 : Msg2} (hr : outcome.result = .ok msg2) :
    ∃ offer, Offer.make settings msg1 tape = (.ok offer, behind) ∧
      msg2 = { offer.msg2 with sigRl := msg2.sigRl } ∧
      outcome.session = ⟨id, .awaitingMsg3 offer.handshake⟩ := by
  cases h with
  | foreign h events => cases hr
  | unsigned h hs events => cases hr
  | answered h hs offer ho off =>
    cases hr
    exact ⟨offer, ho, rfl, rfl⟩
  | supplied h hs offer ho on list reply =>
    cases hr
    exact ⟨offer, ho, rfl, rfl⟩
  | unsupplied h hs on e reply events => cases hr

/-- An offer says what the settings say. -/
theorem Offer.configured {offer : Offer} (h : Offer.make settings msg1 tape = (.ok offer, rest)) :
    offer.msg2.spid = settings.spid ∧ offer.msg2.quoteType = settings.quoteType ∧
      offer.msg2.kdfId = 1 := by
  obtain ⟨peer, ephemeral, hp, -, ho⟩ := Offer.make_ok h
  exact (Offer.consistent hp ho).configured

theorem not_answerable_of_error (on : settings.fetchSigRl = true) {e : Error}
    (reply : (authority.revocationList msg1.groupId).within settings.authorityTimeout = .error e) :
    ¬ Answerable settings authority msg1 ephemeral := by
  intro ha
  rcases ha.supplied with off | ⟨list, inTime, answer⟩
  · have hboth := off.symm.trans on
    cases hboth
  · have hboth := (Reply.within_ok_iff.mpr ⟨inTime, answer⟩).symm.trans reply
    cases hboth

theorem not_unsupplied_of_ok {list : Bytes}
    (reply : (authority.revocationList msg1.groupId).within settings.authorityTimeout = .ok list)
    (e : Error) : ¬ Unsupplied settings authority msg1 ephemeral e := by
  intro hu
  have hboth := (Reply.within_error_iff.mpr hu.failure).symm.trans reply
  cases hboth

/-- Where the list is wanted and the authority fails, this is the failure that is reported. -/
theorem unsupplied_iff (h : msg1.ga.IsCanonical)
    (hs : KeyExchange.Signs settings.longTermKey ephemeral msg1.ga)
    (on : settings.fetchSigRl = true) {e : Error}
    (reply : (authority.revocationList msg1.groupId).within settings.authorityTimeout = .error e)
    (other : Error) : Unsupplied settings authority msg1 ephemeral other ↔ other = e := by
  constructor
  · intro hu
    exact Except.error.inj ((Reply.within_error_iff.mpr hu.failure).symm.trans reply)
  · rintro rfl
    exact ⟨h, hs, on, Reply.within_error_iff.mp reply⟩

/-- However message 1 is received, it is for exactly the right reason. -/
theorem Reception.answersExactly (h : Reception settings authority id msg1 ephemeral tape behind
    asked (outcome, rest)) :
    AnswersExactly settings authority msg1 ephemeral id tape behind asked outcome rest := by
  cases h with
  | foreign h events =>
    have ha : ¬ Answerable settings authority msg1 ephemeral := fun ha => h ha.canonical
    have hu : ∀ e, ¬ Unsupplied settings authority msg1 ephemeral e := fun e hu => h hu.canonical
    constructor
    all_goals simp [h, ha, hu]
  | unsigned h hs events =>
    have ha : ¬ Answerable settings authority msg1 ephemeral := fun ha => hs ha.signs
    have hu : ∀ e, ¬ Unsupplied settings authority msg1 ephemeral e := fun e hu => hs hu.signs
    constructor
    all_goals simp [h, hs, ha, hu]
  | answered h hs offer ho off =>
    have ha : Answerable settings authority msg1 ephemeral := ⟨h, hs, Or.inl off⟩
    have hu : ∀ e, ¬ Unsupplied settings authority msg1 ephemeral e := by
      intro e hu
      have hboth := off.symm.trans hu.wanted
      cases hboth
    have hc := Offer.configured ho
    constructor
    all_goals simp [accept, moveTo, h, hs, ha, hu, hc, off]
  | supplied h hs offer ho on list reply =>
    obtain ⟨inTime, answer⟩ := Reply.within_ok_iff.mp reply
    have ha : Answerable settings authority msg1 ephemeral :=
      ⟨h, hs, Or.inr ⟨list, inTime, answer⟩⟩
    have hu : ∀ e, ¬ Unsupplied settings authority msg1 ephemeral e := not_unsupplied_of_ok reply
    have hc := Offer.configured ho
    constructor
    all_goals simp [accept, moveTo, h, hs, ha, hu, hc, on, answer]
  | unsupplied h hs on e reply events =>
    have ha : ¬ Answerable settings authority msg1 ephemeral := not_answerable_of_error on reply
    have hu := unsupplied_iff h hs on reply
    constructor
    -- here the failure may be any one, so which one it is has to be compared
    case plain => simp [h, hu, eq_comm]
    case unsupplied => simp [hu, eq_comm]
    all_goals simp [h, hs, ha, hu]

/-- Message 1 is answered or refused for exactly the right reasons, and what is agreed on is settled
by its key and the random bytes. -/
theorem msg1_answered_exactly (settings : Settings) (authority : Authority) (id : SessionId)
    (msg1 : Msg1) (ephemeral : P256.SecretKey) (tape behind : Tape)
    (hd : P256.SecretKey.draw? tape = some (ephemeral, behind)) :
    let session : Session := ⟨id, .awaitingMsg1⟩
    let processed := session.process settings authority tape (.msg1 msg1)
    AnswersExactly settings authority msg1 ephemeral id tape behind
      (session.asks settings tape (.msg1 msg1)) processed.1 processed.2 ∧
    (msg1.ga.IsCanonical → KeyExchange.Signs settings.longTermKey ephemeral msg1.ga →
      SettledByKey settings msg1.ga tape) := by
  intro session processed
  refine ⟨(msg1_reception settings authority id msg1 hd).answersExactly, fun h hs => ?_⟩
  rcases msg1.ga.decode_cases with ⟨-, peer, hp⟩ | ⟨hn, -⟩
  · rcases Offer.withEphemeral_cases settings msg1 peer ephemeral with ⟨-, offer, ho⟩ | ⟨hn, -⟩
    · have hmake : Offer.make settings msg1 tape = (.ok offer, behind) := by
        rw [Offer.make_eq hp hd, ho]
      refine ⟨offer.msg2, offer.handshake, ?_⟩
      intro other fetchSigRl authorityTimeout number message hga outcome msg2 hr
      have hreception := msg1_reception { settings with fetchSigRl, authorityTimeout } other number
        message hd
      obtain ⟨offer', ho', hm, hsession⟩ := hreception.offer hr
      have hsame := Offer.make_same hmake ho' hga rfl rfl rfl
      rw [hsame] at hm hsession
      exact ⟨hm, hsession⟩
    · exact absurd hs hn
  · exact absurd h hn

/-- Settings under which the revocation list is fetched. -/
def cautious : Settings := (Settings.make (Block.zero 16) .one []).withFetchSigRl true

/-- An authority that takes 20 ms to name a revocation list of one byte. -/
def ready : Authority := ⟨fun _ => ⟨0, .error .randomness⟩, fun _ => ⟨20, .ok [7]⟩⟩

/-- A tape with the secret key one. -/
def oneKey : Tape := ⟨Bytes.beBytes 32 1⟩

theorem smallest_msg1_answered_exactly :
    P256.SecretKey.draw? oneKey = some (.one, ⟨[]⟩) ∧
    AnswersExactly cautious ready .one .one 1 oneKey ⟨[]⟩
      (asks cautious ⟨1, .awaitingMsg1⟩ oneKey (.msg1 .one))
      (process cautious ready ⟨1, .awaitingMsg1⟩ oneKey (.msg1 .one)).1
      (process cautious ready ⟨1, .awaitingMsg1⟩ oneKey (.msg1 .one)).2 ∧
    SettledByKey cautious Msg1.one.ga oneKey := by
  have hd : P256.SecretKey.draw? oneKey = some (.one, ⟨[]⟩) := by decide +kernel
  have hkey : cautious.longTermKey = .one := rfl
  have hga : Msg1.one.ga = P256.PublicKey.base.wire := rfl
  have canonical : Msg1.one.ga.IsCanonical := by
    have hp : Msg1.one.ga.decode = .ok .base := by
      rw [hga]
      exact WireKey.decode_wire .base
    rcases Msg1.one.ga.decode_cases with ⟨h, -⟩ | ⟨-, h⟩
    · exact h
    · rw [hp] at h
      cases h
  have signs : KeyExchange.Signs cautious.longTermKey .one Msg1.one.ga := by
    rw [hkey, hga]
    exact ⟨P256.PublicKey.base.wire, .one, WireKey.ofSecret_eq P256.SecretKey.publicKey?_one,
      sign_one⟩
  have happlied := msg1_answered_exactly cautious ready 1 .one .one oneKey ⟨[]⟩ hd
  exact ⟨hd, happlied.1, happlied.2 canonical signs⟩

end Session

end EnclaveGate
