import EnclaveGate.Proofs.Session.Evidence
import EnclaveGate.Proofs.Session.Forward

/-!
# How message 3 is rejected

A session that awaits message 3 rejects it for one of six reasons, which are tried in a fixed order:
the authentication code, the key, the form of the quote, its group and binding, the authority, and
the policy. Which of them applies first decides the answer. Each of them ends the session without
trust, before any random byte is drawn, and up to the form and binding of the quote the authority
plays no part.
-/

namespace EnclaveGate

namespace Handshake

/-- Message 3 does not continue the handshake that message 1 began. -/
inductive Contradicts (handshake : Handshake) (msg3 : Msg3) : Prop
  /-- The authentication code is wrong. -/
  | mac (h : msg3.cmac ≠ handshake.smk.mac msg3.macRegion)
  /-- The code is right, but the key is not that of message 1. -/
  | key (authentic : msg3.cmac = handshake.smk.mac msg3.macRegion) (h : msg3.ga ≠ handshake.ga)
  /-- Code and key are right, but the quote is of another group or another key exchange. -/
  | quote (authentic : msg3.cmac = handshake.smk.mac msg3.macRegion)
    (sameKey : msg3.ga = handshake.ga) (body : QuoteBody)
    (readable : QuoteBody.parse msg3.quote = .ok body)
    (h : body.groupId ≠ handshake.groupId ∨
      body.reportData.toList.take 32 ≠ handshake.binding.toList)

/-- Code and key of message 3 are right, but its quote cannot be read. -/
structure Illegible (handshake : Handshake) (msg3 : Msg3) (cause : Error) : Prop where
  /-- The authentication code is right. -/
  authentic : msg3.cmac = handshake.smk.mac msg3.macRegion
  /-- The key is that of message 1. -/
  sameKey : msg3.ga = handshake.ga
  /-- The quote cannot be read. -/
  unreadable : QuoteBody.parse msg3.quote = .error cause

variable {handshake : Handshake} {msg3 : Msg3} {cause : Error} {body : QuoteBody}

theorem Contradicts.not_illegible (h : handshake.Contradicts msg3) :
    ¬ handshake.Illegible msg3 cause := by
  intro hi
  cases h with
  | mac h => exact h hi.authentic
  | key _ h => exact h hi.sameKey
  | quote _ _ other readable _ =>
    have hboth := hi.unreadable.symm.trans readable
    cases hboth

theorem Contradicts.not_matches (h : handshake.Contradicts msg3) :
    ¬ handshake.Matches msg3 body := by
  intro hm
  cases h with
  | mac h => exact h hm.authentic
  | key _ h => exact h hm.sameKey
  | quote _ _ other readable h =>
    have hbody : other = body := Except.ok.inj (readable.symm.trans hm.readable)
    subst hbody
    rcases h with h | h
    · exact h hm.sameGroup
    · exact h hm.bound

theorem Illegible.not_matches (h : handshake.Illegible msg3 cause) :
    ¬ handshake.Matches msg3 body := by
  intro hm
  have hboth := h.unreadable.symm.trans hm.readable
  cases hboth

/-- The checks of message 3 end in one of three ways. -/
theorem check_cases (handshake : Handshake) (msg3 : Msg3) :
    (∃ flaw, handshake.check msg3 = .error flaw ∧ flaw.answer = .ok (.denial .denied) ∧
      handshake.Contradicts msg3) ∨
    (∃ cause, handshake.check msg3 = .error (.malformed cause) ∧ handshake.Illegible msg3 cause) ∨
    ∃ body, handshake.check msg3 = .ok body ∧ handshake.Matches msg3 body := by
  cases hc : handshake.check msg3 with
  | ok body => exact Or.inr (Or.inr ⟨body, rfl, check_ok_iff.mp hc⟩)
  | error flaw =>
    -- each check is made only if those before it passed, so the splits gather what has passed
    unfold check at hc
    split at hc
    · rename_i hv
      cases hc
      refine Or.inl ⟨.mac, rfl, rfl, .mac fun h => ?_⟩
      rw [(DerivedKey.verify_iff handshake.smk msg3.macRegion msg3.cmac).mpr h] at hv
      cases hv
    · rename_i hv
      have authentic : msg3.cmac = handshake.smk.mac msg3.macRegion :=
        (DerivedKey.verify_iff ..).mp (by simpa using hv)
      split at hc
      · rename_i hkey
        cases hc
        exact Or.inl ⟨.key, rfl, rfl, .key authentic hkey⟩
      · rename_i hkey
        have sameKey : msg3.ga = handshake.ga := Decidable.not_not.mp hkey
        split at hc
        · rename_i cause hp
          cases hc
          exact Or.inr (Or.inl ⟨cause, rfl, authentic, sameKey, hp⟩)
        · rename_i body hp
          unfold checkQuote at hc
          split at hc
          · rename_i hgroup
            cases hc
            exact Or.inl ⟨.group, rfl, rfl, .quote authentic sameKey body hp (Or.inl hgroup)⟩
          · split at hc
            · rename_i hbound
              cases hc
              refine Or.inl ⟨.binding, rfl, rfl, .quote authentic sameKey body hp (Or.inr ?_)⟩
              intro h
              rw [QuoteBody.isBoundTo, (Bytes.constantTimeEq_iff _ _).mpr h] at hbound
              cases hbound
            · cases hc

end Handshake

/-- A quote that cannot be read has the wrong form. -/
theorem QuoteBody.invalidFormat_of_parse {quote : Bytes} {cause : Error}
    (h : parse quote = .error cause) : ∃ format, cause = .invalidFormat format := by
  unfold parse at h
  split at h
  · dsimp only at h
    split at h <;> cases h
    exact ⟨_, rfl⟩
  · cases h
    exact ⟨_, rfl⟩

/-- A text is not encrypted for lack of random bytes, or because it is too long. -/
theorem EncryptedSecret.encrypt_error {sk : DerivedKey} {plaintext : Bytes} {tape : Tape} {e : Error}
    (h : (EncryptedSecret.encrypt sk plaintext tape).1 = .error e) :
    e = .randomness ∨ e = .crypto .encryption := by
  unfold EncryptedSecret.encrypt at h
  split at h
  · cases h
    exact Or.inl rfl
  · unfold EncryptedSecret.encryptWith at h
    dsimp only at h
    split at h <;> cases h
    exact Or.inr rfl

/-- What a server that waits only so long takes for a failure: that of the authority if it answers
in time, and otherwise that the time is up. -/
def Reply.FailsWith {α : Type} (reply : Reply α) (limit : Nat) (e : Error) : Prop :=
  reply.delay ≤ limit ∧ reply.answer = .error e ∨
  limit < reply.delay ∧ e = .timeout (UInt64.ofNat limit)

theorem Reply.within_error_iff {α : Type} {reply : Reply α} {limit : Nat} {e : Error} :
    reply.within limit = .error e ↔ reply.FailsWith limit e := by
  unfold within inTime FailsWith
  by_cases h : reply.delay ≤ limit
  · have hlt : ¬ limit < reply.delay := Nat.not_lt.mpr h
    simp [h, hlt]
  · have hlt : limit < reply.delay := Nat.lt_of_not_le h
    simp [h, hlt, eq_comm]

namespace Session

/-! ## The end of a session that awaited message 3 -/

/-- How message 3 ends a session that awaited it: what the authority was asked, what came of the
processing, and which random bytes are left. -/
inductive Ending (settings : Settings) (authority : Authority) (id : SessionId)
    (handshake : Handshake) (tape : Tape) (msg3 : Msg3) :
    Option Question → Outcome Msg4 × Tape → Prop
  /-- The message does not continue the handshake. -/
  | contradicts (h : handshake.Contradicts msg3) (events : List Event) :
    Ending settings authority id handshake tape msg3 none
      (⟨⟨id, .failed⟩, .ok (.denial .denied), events⟩, tape)
  /-- The quote cannot be read. -/
  | illegible (cause : Error) (h : handshake.Illegible msg3 cause) (events : List Event) :
    Ending settings authority id handshake tape msg3 none
      (⟨⟨id, .failed⟩, .error cause, events⟩, tape)
  /-- The authority fails, or is too late. -/
  | unjudged (body : QuoteBody) (h : handshake.Matches msg3 body) (e : Error)
    (reply : (authority.verdict msg3.quote).within settings.authorityTimeout = .error e)
    (events : List Event) :
    Ending settings authority id handshake tape msg3 (some (.verdict msg3.quote))
      (⟨⟨id, .failed⟩, .error e, events⟩, tape)
  /-- The policy denies trust. -/
  | denied (body : QuoteBody) (h : handshake.Matches msg3 body) (verdict : QuoteVerdict)
    (reply : (authority.verdict msg3.quote).within settings.authorityTimeout = .ok verdict)
    (denial : Denial) (policy : settings.policy.evaluate body verdict = .error denial)
    (events : List Event) :
    Ending settings authority id handshake tape msg3 (some (.verdict msg3.quote))
      (⟨⟨id, .failed⟩, .ok (.denial (Evidence.deniedResult verdict)), events⟩, tape)
  /-- The enclave is trusted; the secret is sent, unless it cannot be encrypted. -/
  | trusted (body : QuoteBody) (h : handshake.Matches msg3 body) (verdict : QuoteVerdict)
    (reply : (authority.verdict msg3.quote).within settings.authorityTimeout = .ok verdict)
    (policy : settings.policy.evaluate body verdict = .ok ())
    (outcome : Outcome Msg4) (rest : Tape)
    (answer : (∃ msg4, outcome.result = .ok msg4 ∧ msg4.result.enclaveTrusted = true) ∨
      outcome.result = .error .randomness ∨ outcome.result = .error (.crypto .encryption)) :
    Ending settings authority id handshake tape msg3 (some (.verdict msg3.quote)) (outcome, rest)

variable (settings : Settings) (authority : Authority) (id : SessionId) (handshake : Handshake)
  (tape : Tape) (msg3 : Msg3)

/-- Flawed evidence is answered at once. -/
theorem process_of_flaw {flaw : Flaw} (h : handshake.check msg3 = .error flaw) :
    asks settings ⟨id, .awaitingMsg3 handshake⟩ tape (.msg3 msg3) = none ∧
    process settings authority ⟨id, .awaitingMsg3 handshake⟩ tape (.msg3 msg3) =
      (⟨⟨id, .failed⟩, flaw.answer, flaw.events id⟩, tape) := by
  have hb : beginMsg3 ⟨id, .awaitingMsg3 handshake⟩ msg3 =
      .finished ⟨⟨id, .failed⟩, flaw.answer, flaw.events id⟩ := by
    simp only [beginMsg3, h]
    rfl
  constructor
  · simp only [asks, begin, hb]
  · simp only [process, begin, hb]

/-- About evidence that passes the checks the authority is asked. -/
theorem process_of_matches {body : QuoteBody} (h : handshake.Matches msg3 body) :
    asks settings ⟨id, .awaitingMsg3 handshake⟩ tape (.msg3 msg3) = some (.verdict msg3.quote) ∧
    process settings authority ⟨id, .awaitingMsg3 handshake⟩ tape (.msg3 msg3) =
      finishMsg3 settings ⟨id, .awaitingMsg3 handshake⟩ ⟨handshake, msg3, body⟩ tape
        ((authority.verdict msg3.quote).within settings.authorityTimeout) := by
  have hb : beginMsg3 ⟨id, .awaitingMsg3 handshake⟩ msg3 = .asking ⟨handshake, msg3, body⟩ := by
    simp only [beginMsg3, Handshake.check_ok_iff.mpr h]
  constructor
  · simp only [asks, begin, hb]
    rfl
  · simp only [process, begin, hb]
    rfl

/-- Every message 3 ends a session that awaited it in one of the five ways. -/
theorem msg3_ending :
    Ending settings authority id handshake tape msg3
      (asks settings ⟨id, .awaitingMsg3 handshake⟩ tape (.msg3 msg3))
      (process settings authority ⟨id, .awaitingMsg3 handshake⟩ tape (.msg3 msg3)) := by
  rcases handshake.check_cases msg3 with ⟨flaw, hc, hanswer, h⟩ | ⟨cause, hc, h⟩ | ⟨body, -, h⟩
  · obtain ⟨hasks, hprocess⟩ := process_of_flaw settings authority id handshake tape msg3 hc
    rw [hasks, hprocess, hanswer]
    exact .contradicts h _
  · obtain ⟨hasks, hprocess⟩ := process_of_flaw settings authority id handshake tape msg3 hc
    rw [hasks, hprocess]
    exact .illegible cause h _
  · obtain ⟨hasks, hprocess⟩ := process_of_matches settings authority id handshake tape msg3 h
    rw [hasks, hprocess]
    cases hr : (authority.verdict msg3.quote).within settings.authorityTimeout with
    | error e => exact .unjudged body h e hr _
    | ok verdict =>
      cases hp : settings.policy.evaluate body verdict with
      | error denial =>
        simp only [finishMsg3, hp]
        exact .denied body h verdict hr denial hp _
      | ok _ =>
        simp only [finishMsg3, hp, Evidence.release]
        refine .trusted body h verdict hr hp _ _ ?_
        cases hx : (EncryptedSecret.encrypt (KeyTree.derive handshake.kdk .sk) settings.secret
            tape).1 with
        | ok secret => exact Or.inl ⟨_, rfl, rfl⟩
        | error e =>
          rcases EncryptedSecret.encrypt_error hx with rfl | rfl
          · exact Or.inr (Or.inl rfl)
          · exact Or.inr (Or.inr rfl)

/-! ## Exact classification -/

section

variable (settings : Settings) (authority : Authority) (handshake : Handshake) (msg3 : Msg3)

/-- All local checks pass, and the authority fails or does not answer in time. -/
structure Unjudged (e : Error) : Prop where
  /-- The message continues the handshake. -/
  checked : ∃ body, handshake.Matches msg3 body
  /-- The authority fails, or its time is up. -/
  failure : (authority.verdict msg3.quote).FailsWith settings.authorityTimeout e

/-- All local checks pass, the authority answers in time, and the policy denies trust. -/
structure Denied (verdict : QuoteVerdict) : Prop where
  /-- The authority answers in time. -/
  inTime : (authority.verdict msg3.quote).delay ≤ settings.authorityTimeout
  /-- It judges the quote. -/
  answer : (authority.verdict msg3.quote).answer = .ok verdict
  /-- The message continues the handshake, but the policy denies trust. -/
  policy : ∃ body denial, handshake.Matches msg3 body ∧
    settings.policy.evaluate body verdict = .error denial

/-- A session that awaits message 3 rejects it for exactly the right reasons. -/
structure RejectsExactly (id : SessionId) (tape : Tape) (asked : Option Question)
    (outcome : Outcome Msg4) (rest : Tape) : Prop where
  /-- The bare denial is given, and nobody is asked, where the message does not continue the
  handshake. -/
  contradicts : asked = none ∧ outcome.result = .ok (.denial .denied) ↔ handshake.Contradicts msg3
  /-- A wrong format is reported, and nobody is asked, where only the quote cannot be read. -/
  illegible : (∃ format, asked = none ∧ outcome.result = .error (.invalidFormat format)) ↔
    ∃ cause, handshake.Illegible msg3 cause
  /-- The failure of the authority, or that its time is up, is reported where this is the case. -/
  unjudged : ∀ e, asked = some (.verdict msg3.quote) ∧ outcome.result = .error e ∧
    (authority.verdict msg3.quote).FailsWith settings.authorityTimeout e ↔
    Unjudged settings authority handshake msg3 e
  /-- The denial that tells what the authority said is given where the policy denies trust. -/
  denied : ∀ verdict, asked = some (.verdict msg3.quote) ∧
    (authority.verdict msg3.quote).answer = .ok verdict ∧
    outcome.result = .ok (.denial ⟨false, false, verdict.platformInfoBlob, verdict.advisories⟩) ↔
    Denied settings authority handshake msg3 verdict
  /-- The bare denial alone does not tell a verdict with which there is nothing to tell. -/
  bare : outcome.result = .ok (.denial .denied) ↔ handshake.Contradicts msg3 ∨
    ∃ verdict, Denied settings authority handshake msg3 verdict ∧
      verdict.advisories = [] ∧ verdict.platformInfoBlob = none
  /-- A wrong format alone does not tell whether the authority itself reports one. -/
  format : ∀ format, outcome.result = .error (.invalidFormat format) ↔
    handshake.Illegible msg3 (.invalidFormat format) ∨
    Unjudged settings authority handshake msg3 (.invalidFormat format)
  /-- Whatever the reason, the session fails, nothing is drawn, and nothing is sent. -/
  ended : (handshake.Contradicts msg3 ∨ (∃ cause, handshake.Illegible msg3 cause) ∨
    (∃ e, Unjudged settings authority handshake msg3 e) ∨
    ∃ verdict, Denied settings authority handshake msg3 verdict) →
    outcome.session = ⟨id, .failed⟩ ∧ rest = tape ∧
    ∀ msg4, outcome.result = .ok msg4 → msg4.result.enclaveTrusted = false ∧
      msg4.encryptedSecret = none ∧ msg4.finalCmac = Block.zero 16

end

variable {settings : Settings} {authority : Authority} {id : SessionId} {handshake : Handshake}
  {tape rest : Tape} {msg3 : Msg3} {asked : Option Question} {outcome : Outcome Msg4}

theorem Denied.within {verdict : QuoteVerdict}
    (h : Denied settings authority handshake msg3 verdict) :
    (authority.verdict msg3.quote).within settings.authorityTimeout = .ok verdict :=
  Reply.within_ok_iff.mpr ⟨h.inTime, h.answer⟩

theorem Unjudged.within {e : Error} (h : Unjudged settings authority handshake msg3 e) :
    (authority.verdict msg3.quote).within settings.authorityTimeout = .error e :=
  Reply.within_error_iff.mpr h.failure

/-- Where the checks fail, the authority is not what decides. -/
theorem undecided_of_not_matches (settings : Settings) (authority : Authority)
    (h : ∀ body, ¬ handshake.Matches msg3 body) :
    (∀ e, ¬ Unjudged settings authority handshake msg3 e) ∧
    ∀ verdict, ¬ Denied settings authority handshake msg3 verdict := by
  constructor
  · intro e hu
    obtain ⟨body, hm⟩ := hu.checked
    exact h body hm
  · intro verdict hd
    obtain ⟨body, denial, hm, -⟩ := hd.policy
    exact h body hm

/-- Where the checks pass, they are not what decides. -/
theorem checked_of_matches {body : QuoteBody} (h : handshake.Matches msg3 body) :
    ¬ handshake.Contradicts msg3 ∧ ∀ cause, ¬ handshake.Illegible msg3 cause :=
  ⟨fun hc => hc.not_matches h, fun _ hi => hi.not_matches h⟩

/-- A quote that cannot be read has one fault. -/
theorem illegible_iff {cause : Error} (h : handshake.Illegible msg3 cause) (other : Error) :
    handshake.Illegible msg3 other ↔ other = cause := by
  constructor
  · intro ho
    exact Except.error.inj (ho.unreadable.symm.trans h.unreadable)
  · rintro rfl
    exact h

/-- Where the checks pass and the authority fails, this is the failure that is reported. -/
theorem unjudged_iff {body : QuoteBody} (h : handshake.Matches msg3 body) {e : Error}
    (reply : (authority.verdict msg3.quote).within settings.authorityTimeout = .error e)
    (other : Error) : Unjudged settings authority handshake msg3 other ↔ other = e := by
  constructor
  · intro hu
    exact Except.error.inj (hu.within.symm.trans reply)
  · rintro rfl
    exact ⟨⟨body, h⟩, Reply.within_error_iff.mp reply⟩

theorem not_unjudged {verdict : QuoteVerdict}
    (reply : (authority.verdict msg3.quote).within settings.authorityTimeout = .ok verdict)
    (e : Error) : ¬ Unjudged settings authority handshake msg3 e := by
  intro hu
  have hboth := hu.within.symm.trans reply
  cases hboth

/-- Where the policy denies trust, this is the verdict on which it does. -/
theorem denied_iff {body : QuoteBody} (h : handshake.Matches msg3 body) {verdict : QuoteVerdict}
    (reply : (authority.verdict msg3.quote).within settings.authorityTimeout = .ok verdict)
    {denial : Denial} (policy : settings.policy.evaluate body verdict = .error denial)
    (other : QuoteVerdict) :
    Denied settings authority handshake msg3 other ↔ other = verdict := by
  constructor
  · intro hd
    exact Except.ok.inj (hd.within.symm.trans reply)
  · rintro rfl
    obtain ⟨inTime, answer⟩ := Reply.within_ok_iff.mp reply
    exact ⟨inTime, answer, body, denial, h, policy⟩

theorem not_denied_of_error {e : Error}
    (reply : (authority.verdict msg3.quote).within settings.authorityTimeout = .error e)
    (verdict : QuoteVerdict) : ¬ Denied settings authority handshake msg3 verdict := by
  intro hd
  have hboth := hd.within.symm.trans reply
  cases hboth

/-- Where the policy trusts the enclave, it denies trust on no verdict. -/
theorem not_denied_of_trust {body : QuoteBody} (h : handshake.Matches msg3 body)
    {verdict : QuoteVerdict}
    (reply : (authority.verdict msg3.quote).within settings.authorityTimeout = .ok verdict)
    (policy : settings.policy.evaluate body verdict = .ok ()) (other : QuoteVerdict) :
    ¬ Denied settings authority handshake msg3 other := by
  intro hd
  obtain ⟨body', denial, hm, hdenial⟩ := hd.policy
  have hverdict : other = verdict := Except.ok.inj (hd.within.symm.trans reply)
  have hbody : body' = body := Except.ok.inj (hm.readable.symm.trans h.readable)
  rw [hverdict, hbody, policy] at hdenial
  cases hdenial

/-- A trusted enclave is told so, and a secret that cannot be encrypted is no reason to deny trust. -/
theorem not_denial_of_trusted {answer : Except Error Msg4}
    (h : (∃ msg4, answer = .ok msg4 ∧ msg4.result.enclaveTrusted = true) ∨
      answer = .error .randomness ∨ answer = .error (.crypto .encryption))
    {result : AttestationResult} (hresult : result.enclaveTrusted = false) :
    answer ≠ .ok (.denial result) := by
  rintro rfl
  rcases h with ⟨msg4, hm, ht⟩ | he | he
  · cases hm
    rw [Msg4.denial, hresult] at ht
    cases ht
  · cases he
  · cases he

/-- However a session ends, it is for exactly the right reason. -/
theorem Ending.rejectsExactly
    (h : Ending settings authority id handshake tape msg3 asked (outcome, rest)) :
    RejectsExactly settings authority handshake msg3 id tape asked outcome rest := by
  -- One reason applies at most. Once the others are refuted, every equivalence is between an answer
  -- that is known and a reason that is decided.
  cases h with
  | contradicts h events =>
    have hi : ∀ cause, ¬ handshake.Illegible msg3 cause := fun _ => h.not_illegible
    obtain ⟨hu, hd⟩ := undecided_of_not_matches settings authority fun _ => h.not_matches
    constructor
    case ended => exact fun _ => ⟨rfl, rfl, fun msg4 hm => by cases hm; exact ⟨rfl, rfl, rfl⟩⟩
    all_goals simp [h, hi, hu, hd]
  | illegible cause h events =>
    have hc : ¬ handshake.Contradicts msg3 := fun hc => hc.not_illegible h
    have only := illegible_iff h
    obtain ⟨hu, hd⟩ := undecided_of_not_matches settings authority fun _ => h.not_matches
    obtain ⟨format, rfl⟩ := QuoteBody.invalidFormat_of_parse h.unreadable
    constructor
    case ended => exact fun _ => ⟨rfl, rfl, fun msg4 hm => by cases hm⟩
    all_goals simp [hc, only, hu, hd, eq_comm]
  | unjudged body h e reply events =>
    obtain ⟨hc, hi⟩ := checked_of_matches h
    have only := unjudged_iff h reply
    have hd : ∀ verdict, ¬ Denied settings authority handshake msg3 verdict :=
      not_denied_of_error reply
    have fails := Reply.within_error_iff.mp reply
    constructor
    case ended => exact fun _ => ⟨rfl, rfl, fun msg4 hm => by cases hm⟩
    case unjudged =>
      intro other
      rw [only]
      constructor
      · rintro ⟨-, hresult, -⟩
        exact (Except.error.inj hresult).symm
      · rintro rfl
        exact ⟨rfl, rfl, fails⟩
    all_goals simp [hc, hi, only, hd, eq_comm]
  | denied body h verdict reply denial policy events =>
    obtain ⟨hc, hi⟩ := checked_of_matches h
    have only := denied_iff h reply policy
    have hu : ∀ e, ¬ Unjudged settings authority handshake msg3 e := not_unjudged reply
    obtain ⟨-, answer⟩ := Reply.within_ok_iff.mp reply
    constructor
    case ended => exact fun _ => ⟨rfl, rfl, fun msg4 hm => by cases hm; exact ⟨rfl, rfl, rfl⟩⟩
    case denied =>
      intro other
      rw [only, answer]
      constructor
      · rintro ⟨-, hother, -⟩
        exact (Except.ok.inj hother).symm
      · rintro rfl
        exact ⟨rfl, rfl, rfl⟩
    case bare =>
      simp only [hc, false_or, only, exists_eq_left]
      simp [Msg4.denial, Evidence.deniedResult, AttestationResult.denied, and_comm]
    all_goals simp [hc, hi, hu]
  | trusted body h verdict reply policy outcome rest answer =>
    obtain ⟨hc, hi⟩ := checked_of_matches h
    have hu : ∀ e, ¬ Unjudged settings authority handshake msg3 e := not_unjudged reply
    have hd : ∀ other, ¬ Denied settings authority handshake msg3 other :=
      not_denied_of_trust h reply policy
    have trusted : ∀ result : AttestationResult, result.enclaveTrusted = false →
        outcome.result ≠ .ok (.denial result) := fun _ => not_denial_of_trusted answer
    have format : ∀ cause, outcome.result ≠ .error (.invalidFormat cause) := by
      intro cause heq
      rcases answer with ⟨msg4, hm, -⟩ | he | he <;> simp_all
    have fails : ∀ e, ¬ (authority.verdict msg3.quote).FailsWith settings.authorityTimeout e := by
      intro e he
      have hboth := (Reply.within_error_iff.mpr he).symm.trans reply
      cases hboth
    constructor
    case denied =>
      intro other
      exact ⟨fun h => absurd h.2.2 (trusted _ rfl), fun h => absurd h (hd other)⟩
    all_goals simp [hc, hi, hu, hd, fails, trusted .denied rfl, format]

/-- Every message 3 that a session awaits is rejected for exactly the right reasons. Where a local
check fails, the session, the answer, the journal and the random bytes are the same for every
authority, which is not asked. -/
theorem msg3_rejected_exactly (settings : Settings) (authority : Authority) (id : SessionId)
    (handshake : Handshake) (tape : Tape) (msg3 : Msg3) :
    let session : Session := ⟨id, .awaitingMsg3 handshake⟩
    let asked := session.asks settings tape (.msg3 msg3)
    let processed := session.process settings authority tape (.msg3 msg3)
    RejectsExactly settings authority handshake msg3 id tape asked processed.1 processed.2 ∧
    (handshake.Contradicts msg3 ∨ (∃ cause, handshake.Illegible msg3 cause) → asked = none ∧
      ∀ other : Authority, session.process settings other tape (.msg3 msg3) = processed) := by
  intro session asked processed
  refine ⟨(msg3_ending settings authority id handshake tape msg3).rejectsExactly, fun h => ?_⟩
  cases hc : handshake.check msg3 with
  | ok body =>
    have hm := Handshake.check_ok_iff.mp hc
    obtain ⟨notContradicts, notIllegible⟩ := checked_of_matches hm
    rcases h with h | ⟨cause, h⟩
    · exact absurd h notContradicts
    · exact absurd h (notIllegible cause)
  | error flaw =>
    have answered := fun authority => process_of_flaw settings authority id handshake tape msg3 hc
    exact ⟨(answered authority).1, fun other => (answered other).2.trans (answered authority).2.symm⟩

end Session

end EnclaveGate
