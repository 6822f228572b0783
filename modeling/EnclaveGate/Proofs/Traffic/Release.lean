import EnclaveGate.Proofs.Session.Evidence
import EnclaveGate.Proofs.Session.Offer
import EnclaveGate.Proofs.Traffic.History

/-!
# Who receives the secret

Whatever calls run and in whatever order they take their steps, message 3 is answered with the
secret exactly if it found its session waiting, its evidence belongs to the handshake, the authority
vouched in time for this very quote, the policy accepts what it said, and the secret could be
encrypted. The session waits only behind a message 1 that was answered before, and the handshake is
the one that its two messages settled.
-/

namespace EnclaveGate

/-- What entitles a message 3 to the secret. -/
structure Visit.Entitled (settings : Settings) (visit : Visit) (msg3 : Msg3) (handshake : Handshake)
    (quote : QuoteBody) (authority : Authority) (verdict : QuoteVerdict) : Prop where
  /-- The session was found waiting for message 3. -/
  awaiting : visit.found.phase = .awaitingMsg3 handshake
  /-- The evidence belongs to the handshake. -/
  evidence : handshake.Matches msg3 quote
  /-- An authority was asked. -/
  asked : visit.authority = some authority
  /-- It answered the question about the quote within the limit. -/
  inTime : (authority.verdict msg3.quote).delay ≤ settings.authorityTimeout
  /-- It answered with a verdict. -/
  judged : (authority.verdict msg3.quote).answer = .ok verdict
  /-- The policy accepts the quote and the verdict. -/
  trusted : settings.policy.evaluate quote verdict = .ok ()
  /-- A vector can be drawn. -/
  random : 12 ≤ visit.tape.size
  /-- The secret is short enough to be encrypted. -/
  fits : settings.secret.length ≤ Gcm.maxPlaintext

section Visit

variable {settings : Settings} {visit : Visit} {msg3 : Msg3} {outcome : Outcome Msg4}

/-- The authority is asked about evidence that belongs to the handshake. -/
theorem Session.beginMsg3_asking_iff {session : Session} {evidence : Evidence} :
    session.beginMsg3 msg3 = .asking evidence ↔
      session.phase = .awaitingMsg3 evidence.handshake ∧ evidence.msg3 = msg3 ∧
        evidence.handshake.Matches msg3 evidence.quote := by
  cases hp : session.phase with
  | awaitingMsg3 h =>
    rw [Session.beginMsg3_of_awaiting hp]
    cases hc : h.check msg3 with
    | error flaw =>
      simp only [reduceCtorEq, Phase.awaitingMsg3.injEq, false_iff]
      rintro ⟨rfl, -, hm⟩
      rw [Handshake.check_ok_iff.mpr hm] at hc
      cases hc
    | ok quote =>
      simp only [Stage.asking.injEq, Phase.awaitingMsg3.injEq]
      constructor
      · rintro rfl
        exact ⟨rfl, rfl, Handshake.check_ok_iff.mp hc⟩
      · rintro ⟨rfl, rfl, hm⟩
        rw [Handshake.check_ok_iff.mpr hm] at hc
        cases hc
        rfl
  | awaitingMsg1 | established | failed => simp [Session.beginMsg3, hp]

/-- Whoever receives the secret is entitled to it. -/
theorem Visit.Yields.entitled (hy : visit.Yields settings (.msg3 msg3) outcome) {msg4 : Msg4}
    {secret : EncryptedSecret} (hr : outcome.result = .ok msg4)
    (hs : msg4.encryptedSecret = some secret) :
    ∃ handshake quote authority verdict,
      visit.Entitled settings msg3 handshake quote authority verdict := by
  rcases hy with ⟨hn, hb⟩ | ⟨authority, pending, ha, hb, rfl⟩
  · -- what is over before the authority is asked ends without the secret
    obtain ⟨authority, hp⟩ := Visit.Yields.process (Or.inl ⟨hn, hb⟩)
    cases hacc : visit.found.phase.accepts (.msg3 msg3) with
    | false =>
      rw [Session.process_of_not_accepts settings authority visit.tape hacc] at hp
      rw [← hp] at hr
      cases hr
    | true =>
      obtain ⟨h, hph⟩ := Phase.accepts_msg3.mp hacc
      simp only [Session.begin, Session.beginMsg3_of_awaiting hph] at hb
      cases hc : h.check msg3 with
      | ok quote => simp [hc] at hb
      | error flaw =>
        simp only [hc, Stage.finished.injEq] at hb
        rw [← hb] at hr
        rw [Session.encryptedSecret_of_flaw hr] at hs
        cases hs
  · obtain ⟨hph, hm, hmatch⟩ := Session.beginMsg3_asking_iff.mp hb
    obtain ⟨verdict, hw, hpol, hrand, hfit⟩ :=
      Session.finishMsg3_releases_iff.mp ⟨msg4, secret, hr, hs⟩
    rw [hm] at hw
    obtain ⟨hd, hans⟩ := Reply.within_ok_iff.mp hw
    exact ⟨pending.handshake, pending.quote, authority, verdict, hph, hmatch, ha, hd, hans, hpol,
      hrand, hfit⟩

/-- Whoever is entitled to the secret receives it. -/
theorem Visit.Entitled.releases {handshake : Handshake} {quote : QuoteBody} {authority : Authority}
    {verdict : QuoteVerdict}
    (he : visit.Entitled settings msg3 handshake quote authority verdict)
    (hy : visit.Yields settings (.msg3 msg3) outcome) :
    ∃ msg4 secret, outcome.result = .ok msg4 ∧ msg4.encryptedSecret = some secret := by
  have hb : visit.found.beginMsg3 msg3 = .asking ⟨handshake, msg3, quote⟩ :=
    Session.beginMsg3_asking_iff.mpr ⟨he.awaiting, rfl, he.evidence⟩
  rcases hy with ⟨hn, -⟩ | ⟨authority', pending, ha, hb', rfl⟩
  · exact absurd (hn.symm.trans he.asked) (by simp)
  · have hp : pending = ⟨handshake, msg3, quote⟩ := Stage.asking.inj (hb'.symm.trans hb)
    have haa : authority' = authority := Option.some.inj (ha.symm.trans he.asked)
    subst hp haa
    exact Session.finishMsg3_releases_iff.mpr
      ⟨verdict, Reply.within_ok_iff.mpr ⟨he.inTime, he.judged⟩, he.trusted, he.random, he.fits⟩

end Visit

namespace Traffic

/-- A call is a message 3 that was answered with the secret. -/
def Released (t : Traffic) (i : Nat) (msg3 : Msg3) : Prop :=
  ∃ (stand : Stand (.msg3 msg3)) (visit : Visit) (msg4 : Msg4) (secret : EncryptedSecret),
    t.calls[i]? = some ⟨.msg3 msg3, stand⟩ ∧ stand.visit? = some visit ∧
      stand.result? = some (.ok msg4) ∧ msg4.encryptedSecret = some secret

/-- A call is a message 3 that was entitled to the secret. -/
def Deserved (settings : Settings) (t : Traffic) (i : Nat) (msg3 : Msg3) : Prop :=
  ∃ (stand : Stand (.msg3 msg3)) (visit : Visit) (handshake : Handshake) (quote : QuoteBody)
      (authority : Authority) (verdict : QuoteVerdict),
    t.calls[i]? = some ⟨.msg3 msg3, stand⟩ ∧ stand.visit? = some visit ∧
      visit.Entitled settings msg3 handshake quote authority verdict

/-- A message 1 with an id was answered at a session, and both messages settled a handshake. -/
def Settled (t : Traffic) (id : SessionId) (ticket : Ticket) (handshake : Handshake) : Prop :=
  ∃ (j : Nat) (msg1 : Msg1) (stand : Stand (.msg1 msg1)) (visit : Visit) (msg2 : Msg2)
      (peer : P256.PublicKey) (ephemeral : P256.SecretKey),
    t.calls[j]? = some ⟨.msg1 msg1, stand⟩ ∧ msg1.sessionId = id ∧ stand.visit? = some visit ∧
      visit.ticket = ticket ∧ stand.result? = some (.ok msg2) ∧
      handshake.Settles msg1 msg2 peer ephemeral

/-- Who receives the secret in a run. -/
structure ReleasesExactly (settings : Settings) (tape : Tape) (actions : List Action) (i : Nat)
    (msg3 : Msg3) : Prop where
  /-- The secret goes to whoever is entitled to it and to nobody else. -/
  exactly : ((start tape).run settings actions).Released i msg3 ↔
    ((start tape).run settings actions).Deserved settings i msg3
  /-- A session that a message 3 finds waiting has the id that the message addresses, and before the
  message got the session, a message 1 with this id was answered there. -/
  behind : ∀ (stand : Stand (.msg3 msg3)) (visit : Visit) (handshake : Handshake),
    ((start tape).run settings actions).calls[i]? = some ⟨.msg3 msg3, stand⟩ →
    stand.visit? = some visit → visit.found.phase = .awaitingMsg3 handshake →
    visit.found.id = msg3.sessionId ∧ ∃ before after, actions = before ++ after ∧
      ((start tape).run settings before).calls[i]? = some ⟨.msg3 msg3, .admitted visit.ticket⟩ ∧
      ((start tape).run settings before).Settled msg3.sessionId visit.ticket handshake

section Unheard

variable {settings : Settings} {t t' : Traffic}

/-- Whoever still waits for an authority has heard from none. -/
def Unheard (t : Traffic) : Prop :=
  ∀ (i : Nat) (request : Request) (visit : Visit) (pending : request.Pending),
    t.calls[i]? = some ⟨request, .asking visit pending⟩ → visit.authority = none

theorem Unheard.effect (hu : Unheard t) (he : Effect settings t t') : Unheard t' := by
  intro i request visit pending hi
  -- a call that is over or has just arrived does not wait for an authority
  have other : ∀ {c : Call}, c.stand.holds? = none →
      c ≠ ⟨request, .asking visit pending⟩ := by
    rintro _ hn rfl
    cases hn
  cases he with
  | still hs hc => exact hu i request visit pending (hc ▸ hi)
  | opened id hs hc => exact hu i request visit pending (hc ▸ hi)
  | refused request' cause hs hc =>
    rw [hc] at hi
    rcases append_cases hi with hi | hi
    · exact hu i request visit pending hi
    · exact absurd hi.symm (other rfl)
  | admitted request' ticket hk hs hc =>
    rw [hc] at hi
    rcases append_cases hi with hi | hi
    · exact hu i request visit pending hi
    · exact absurd hi.symm (other rfl)
  | asked j request' visit' pending' hj free found ha hb hs hc =>
    rw [hc] at hi
    rcases set_cases hi with ⟨-, hi⟩ | ⟨-, hi⟩
    · cases hi
      exact ha
    · exact hu i request visit pending hi
  | finished j request' visit' outcome hj free found ha hb hs hc =>
    rw [hc] at hi
    rcases set_cases hi with ⟨-, hi⟩ | ⟨-, hi⟩
    · exact absurd hi.symm (other (holds?_concluded _ _))
    · exact hu i request visit pending hi
  | heard j request' visit' pending' authority session tape hj found hs hc =>
    rw [hc] at hi
    rcases set_cases hi with ⟨-, hi⟩ | ⟨-, hi⟩
    · exact absurd hi.symm (other (holds?_concluded _ _))
    · exact hu i request visit pending hi
  | left j request' visit' result hj hs hc =>
    rw [hc] at hi
    rcases set_cases hi with ⟨-, hi⟩ | ⟨-, hi⟩
    · exact absurd hi.symm (other rfl)
    · exact hu i request visit pending hi

theorem Unheard.run (hu : Unheard t) (actions : List Action) : Unheard (t.run settings actions) := by
  induction actions generalizing t with
  | nil => exact hu
  | cons action actions ih => exact ih (hu.effect (t.step_effect settings action))

theorem unheard_run (settings : Settings) (tape : Tape) (actions : List Action) :
    Unheard ((start tape).run settings actions) :=
  Unheard.run (by simp [Unheard, start]) actions

/-- A call that has heard from an authority is over. -/
theorem Unheard.result? (hu : Unheard t) {i : Nat} {request : Request} {stand : Stand request}
    {visit : Visit} {authority : Authority} (hi : t.calls[i]? = some ⟨request, stand⟩)
    (hv : stand.visit? = some visit) (ha : visit.authority = some authority) :
    ∃ r, stand.result? = some r := by
  cases stand with
  | refused | admitted => cases hv
  | asking v pending =>
    cases hv
    rw [hu i request visit pending hi] at ha
    cases ha
  | leaving v r => exact ⟨r, rfl⟩
  | answered v r => exact ⟨r, rfl⟩

end Unheard

/-- A session waits for message 3 behind a message 1 whose answer settled what the session keeps. -/
theorem Coherent.settled {settings : Settings} {t : Traffic} (h : Coherent settings t)
    (ha : Addressed t) {k : Ticket} {s : Session} {handshake : Handshake}
    (hk : t.sessions[k]? = some s) (hp : s.phase = .awaitingMsg3 handshake) :
    t.Settled s.id k handshake := by
  obtain ⟨j, d, hj, hd⟩ := h.agreed k s handshake hk hp
  obtain ⟨m, stand, visit, outcome, rfl, hv, rfl, h1, hy, hr, ho⟩ := hd
  obtain ⟨authority, hpr⟩ := hy.process
  rw [← hpr] at ho
  obtain ⟨msg2, peer, ephemeral, hset, hres⟩ :=
    Session.settles_of_process h1 authority visit.tape ho
  rw [hpr] at hres
  obtain ⟨s', hs', hid⟩ := ha j _ visit.ticket hj (Stand.ticket?_of_visit? hv)
  rw [hk] at hs'
  cases hs'
  exact ⟨j, m, stand, visit, msg2, peer, ephemeral, hj, hid.symm, hv, rfl, hres ▸ hr, hset⟩

/-- In every run, the secret is released to those who are entitled to it and to nobody else, and
only behind an answered message 1 of the same session. -/
theorem secret_released_exactly (settings : Settings) (tape : Tape) (actions : List Action)
    (i : Nat) (msg3 : Msg3) : ReleasesExactly settings tape actions i msg3 := by
  have h := coherent_run settings tape actions
  constructor
  case exactly =>
    constructor
    · rintro ⟨stand, visit, msg4, secret, hi, hv, hr, hs⟩
      obtain ⟨outcome, hy, ho⟩ := h.concluded i _ stand visit _ hi hv hr
      obtain ⟨handshake, quote, authority, verdict, he⟩ := hy.entitled ho hs
      exact ⟨stand, visit, handshake, quote, authority, verdict, hi, hv, he⟩
    · rintro ⟨stand, visit, handshake, quote, authority, verdict, hi, hv, he⟩
      obtain ⟨r, hr⟩ := (unheard_run settings tape actions).result? hi hv he.asked
      obtain ⟨outcome, hy, rfl⟩ := h.concluded i _ stand visit r hi hv hr
      obtain ⟨msg4, secret, ho, hs⟩ := he.releases hy
      exact ⟨stand, visit, msg4, secret, hi, hv, ho ▸ hr, hs⟩
  case behind =>
    intro stand visit handshake hi hv hp
    obtain ⟨before, after, rfl, hadm, hfound⟩ := entered tape actions hi hv
    have hb := coherent_run settings tape before
    have ha := addressed_run settings tape before
    obtain ⟨s, hs, hid⟩ := ha i _ visit.ticket hadm rfl
    rw [hfound] at hs
    cases hs
    have hid' : visit.found.id = msg3.sessionId := hid
    exact ⟨hid', before, after, rfl, hadm, hid' ▸ hb.settled ha hfound hp⟩

end Traffic

end EnclaveGate
