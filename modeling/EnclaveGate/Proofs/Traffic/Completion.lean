import EnclaveGate.Proofs.Server.Orderly
import EnclaveGate.Proofs.Session.Offer
import EnclaveGate.Proofs.Traffic.ForwardOnce

/-!
# Reports of completion

A completion is reported by every message 3 that leaves a session that is over, whether the message
ended the session or found it over. One message 3 at most passes, and its report tells whether the
secret was released; every other one is refused, and its report claims that the session was not
trusted, even where the secret was released.
-/

namespace EnclaveGate

/-- The session that an event reports as completed, and whether as trusted. -/
def Event.completed? : Event → Option (SessionId × Bool)
  | completed id trusted => some (id, trusted)
  | _ => none

theorem Event.completed?_of_isByServer {event : Event} (h : event.isByServer = false) :
    event.completed? = none := by
  cases event <;> simp_all [isByServer, completed?]

/-- Whether an answer to message 3 tells the enclave that it is trusted. -/
def Msg4.isTrusted : Except Error Msg4 → Bool
  | .ok msg4 => msg4.result.enclaveTrusted
  | .error _ => false

/-- A message 3 that is processed brings trust exactly if it brings the secret. -/
theorem Session.isTrusted_process (settings : Settings) {session : Session} {handshake : Handshake}
    (authority : Authority) (tape : Tape) (hp : session.phase = .awaitingMsg3 handshake) (m : Msg3) :
    Msg4.isTrusted (session.process settings authority tape (.msg3 m)).1.result = true ↔
      ∃ msg4 secret, (session.process settings authority tape (.msg3 m)).1.result = .ok msg4 ∧
        msg4.encryptedSecret = some secret := by
  have hb := beginMsg3_of_awaiting hp m
  cases hc : handshake.check m with
  | error flaw =>
    simp only [process, Session.begin, hb, hc, endWith]
    cases flaw <;> simp [Flaw.answer, Msg4.isTrusted, Msg4.denial, AttestationResult.denied]
  | ok quote =>
    simp only [process, Session.begin, hb, hc, Session.finish, finishMsg3]
    split
    · simp [endWith, Msg4.isTrusted]
    · rename_i verdict _
      split
      · simp [endWith, Msg4.isTrusted, Msg4.denial, Evidence.deniedResult]
      · simp only [Evidence.release]
        cases (EncryptedSecret.encrypt (KeyTree.derive handshake.kdk .sk) settings.secret tape).1 with
        | error e => simp [establish, endWith, Except.map, Msg4.isTrusted]
        | ok secret =>
          simp [establish, Except.map, Msg4.isTrusted, Evidence.msg4, Evidence.trustedResult]

/-- What an answered message 3 reports. -/
def Call.report? : Call → Option (SessionId × Bool)
  | ⟨.msg3 m, .answered _ r⟩ => some (m.sessionId, Msg4.isTrusted r)
  | _ => none

/-- Why a call failed. -/
def Call.failure? (call : Call) : Option Error :=
  match call.stand.result? with
  | some (.error e) => some e
  | _ => none

namespace Traffic

variable (settings : Settings)

/-- The call that reports a completion in a step. -/
def reporter (t : Traffic) : Action → List Nat
  | .leave i =>
    match t.calls[i]? with
    | some ⟨.msg3 _, .leaving _ _⟩ => [i]
    | _ => []
  | _ => []

/-- The calls that report completions in a run, in order. -/
def reporters (t : Traffic) : List Action → List Nat
  | [] => []
  | action :: actions => t.reporter action ++ (t.step settings action).reporters actions

/-- What is reported when a call leaves. -/
def notice (t : Traffic) : Action → List Event
  | .leave i =>
    match t.calls[i]? with
    | some ⟨request, .leaving _ r⟩ => request.closing r
    | _ => []
  | _ => []

variable {settings} {t : Traffic}

/-- Who is about to remove its session and whoever else takes such a step. -/
theorem leaves_or_idle (t : Traffic) (i : Nat) :
    (∃ (request : Request) (v : Visit) (r : Except Error request.Answer),
      t.calls[i]? = some ⟨request, .leaving v r⟩) ∨
    t.leave i = t ∧ t.notice (.leave i) = [] ∧ t.reporter (.leave i) = [] := by
  by_cases h : ∃ (request : Request) (v : Visit) (r : Except Error request.Answer),
      t.calls[i]? = some ⟨request, .leaving v r⟩
  · exact Or.inl h
  · refine Or.inr ⟨leave_eq_self h, ?_, ?_⟩
    · simp only [notice]
      split
      · rename_i hi
        exact absurd ⟨_, _, _, hi⟩ h
      · rfl
    · simp only [reporter]
      split
      · rename_i hi
        exact absurd ⟨_, _, _, hi⟩ h
      · rfl

/-! ## The journal -/

/-- Opening, admission and processing report no completion. -/
theorem step_journal (settings : Settings) (t : Traffic) (action : Action) :
    ∃ events,
      (t.step settings action).server.journal = t.server.journal ++ events ++ t.notice action ∧
      ∀ event ∈ events, event.completed? = none := by
  have nothing : ∀ {s : Server}, s.journal = t.server.journal →
      ∃ events, s.journal = t.server.journal ++ events ++ [] ∧
        ∀ event ∈ events, event.completed? = none :=
    fun h => ⟨[], by simp [h], nofun⟩
  have processed : ∀ {s : Server} {events : List Event}, s.journal = t.server.journal ++ events →
      Event.AreBySession events → ∃ events, s.journal = t.server.journal ++ events ++ [] ∧
        ∀ event ∈ events, event.completed? = none :=
    fun h hq => ⟨_, by rw [h, List.append_nil], fun e he => Event.completed?_of_isByServer (hq e he)⟩
  -- only a step that leaves a session has a notice, so all others have to be shown to tell of none
  cases action with
  | pass ms => exact nothing rfl
  | openSession =>
    rcases t.server.openSession_spec settings with ⟨tape, h⟩ | ⟨challenge, tape, -, -, h⟩
    · exact nothing (by rw [step, h])
    · have hj : (t.step settings .openSession).server.journal = t.server.journal ++
          ((t.server.registry.makeRoom settings t.server.now).2 ++
            [.created challenge.sessionId]) := by
        rw [step, h]
        exact List.append_assoc ..
      refine ⟨_, hj.trans (List.append_nil _).symm, ?_⟩
      intro event he
      rcases List.mem_append.mp he with he | he
      · obtain ⟨id, rfl⟩ := Registry.evicted_of_mem_makeRoom he
        rfl
      · cases List.mem_singleton.mp he
        rfl
  | purge =>
    refine ⟨_, (List.append_nil _).symm, fun event he => ?_⟩
    split at he
    · cases List.mem_singleton.mp he
      rfl
    · cases he
  | arrive request =>
    have hroute : (t.step settings (.arrive request)).server =
        (t.server.route settings request.sessionId).2 := by
      rw [step, arrive]
      split <;> rename_i hr <;> rw [hr]
    rw [hroute, Server.route]
    split
    · exact nothing rfl
    · split
      · exact nothing rfl
      · refine ⟨[.expired request.sessionId], (List.append_nil _).symm, fun event he => ?_⟩
        cases List.mem_singleton.mp he
        rfl
  | enter i =>
    rw [step]
    rcases t.enter_cases settings i with hs | ⟨_, _, _, _, _, _, _, _, _, hs⟩ |
      ⟨_, _, _, outcome, tape, -, -, -, hb, hs⟩ <;> rw [hs]
    · exact nothing rfl
    · exact nothing rfl
    · exact processed rfl (Session.events_begin _ _ _ (congrArg Prod.fst hb))
  | hear i authority =>
    rw [step]
    rcases t.hear_cases settings i authority with hs | ⟨request, _, pending, entry, -, -, hs⟩ <;>
      rw [hs]
    · exact nothing rfl
    · exact processed rfl (Session.events_finish settings authority entry.session t.server.tape
        request pending)
  | leave i =>
    rcases t.leaves_or_idle i with ⟨request, v, r, hi⟩ | ⟨hl, hn, -⟩
    · exact ⟨[], by simp [step, leave, notice, hi, Server.report], nofun⟩
    · rw [hn, step, hl]
      exact nothing rfl

/-- Only what is reported when a call leaves tells of completions. -/
theorem completed_step (settings : Settings) (t : Traffic) (action : Action) :
    (t.step settings action).server.journal.filterMap Event.completed? =
      t.server.journal.filterMap Event.completed? ++
        (t.notice action).filterMap Event.completed? := by
  obtain ⟨events, hj, hquiet⟩ := t.step_journal settings action
  have hevents : events.filterMap Event.completed? = [] := List.filterMap_eq_nil_iff.mpr hquiet
  rw [hj, List.filterMap_append, List.filterMap_append, hevents, List.append_nil]

/-! ## Who reports -/

/-- A message 3 that found its session over or ended it. -/
def Finds (t : Traffic) (i : Nat) : Prop :=
  ∃ (m : Msg3) (v : Visit) (r : Except Error Msg4),
    t.calls[i]? = some ⟨.msg3 m, .answered v r⟩ ∧ v.found.phase ≠ .awaitingMsg1

/-- The calls that have reported completions so far. -/
structure Reported (t : Traffic) (reporters : List Nat) : Prop where
  /-- The journal holds their reports in order. -/
  journal : t.server.journal.filterMap Event.completed? =
    reporters.filterMap fun i => t.calls[i]?.bind Call.report?
  /-- Each of them reported once. -/
  nodup : reporters.Nodup
  /-- They are the messages 3 that are answered and came when their session expected no message 1. -/
  mem_iff : ∀ i, i ∈ reporters ↔ t.Finds i
  /-- A message 3 that is about to remove its session did not find it waiting for message 1. -/
  leaving : ∀ (i : Nat) (m : Msg3) (v : Visit) (r : Except Error Msg4),
    t.calls[i]? = some ⟨.msg3 m, .leaving v r⟩ → v.found.phase ≠ .awaitingMsg1

/-- A message 3 that is over removes its session unless the session waits for message 1. -/
theorem isTerminal_iff_of_yields {v : Visit} {m : Msg3} {outcome : Outcome Msg4}
    (hy : v.Yields settings (.msg3 m) outcome) :
    outcome.session.isTerminal = true ↔ v.found.phase ≠ .awaitingMsg1 := by
  obtain ⟨authority, hp⟩ := hy.process
  cases ha : v.found.phase.accepts (.msg3 m) with
  | false =>
    rw [Session.process_of_not_accepts settings authority v.tape ha] at hp
    rw [← hp, Session.refuse, Session.isTerminal]
    cases hphase : v.found.phase <;> simp_all [Phase.isTerminal, Phase.accepts]
  | true =>
    obtain ⟨handshake, hphase⟩ := Phase.accepts_msg3.mp ha
    rcases Session.process_msg3_cases settings authority v.tape hphase m with ⟨hs, -⟩ | ⟨hs, -⟩ <;>
      rw [hp] at hs <;>
      simp [hs, hphase, Session.moveTo, Session.isTerminal, Phase.isTerminal]

/-- A call whose processing is over was over before, or is just over, or has just left. -/
theorem Effect.result_cases {t' : Traffic} (h : Coherent settings t) (he : Effect settings t t')
    {i : Nat} {request : Request} {stand' : Stand request} {v : Visit}
    (hi' : t'.calls[i]? = some ⟨request, stand'⟩) (hv : stand'.visit? = some v)
    (hr : stand'.result? ≠ none) :
    t.calls[i]? = some ⟨request, stand'⟩ ∨
    (∃ outcome, v.Yields settings request outcome ∧ stand' = Traffic.concluded v outcome) ∨
    ∃ r, t.calls[i]? = some ⟨request, .leaving v r⟩ ∧ stand' = .answered v r := by
  cases he with
  | still hs hc => exact Or.inl (hc ▸ hi')
  | opened id hs hc => exact Or.inl (hc ▸ hi')
  | refused other cause hs hc =>
    rw [hc] at hi'
    rcases append_cases hi' with hi' | hi'
    · exact Or.inl hi'
    · cases hi'
      cases hv
  | admitted other ticket hk hs hc =>
    rw [hc] at hi'
    rcases append_cases hi' with hi' | hi'
    · exact Or.inl hi'
    · cases hi'
      cases hv
  | asked j other w pending hj free found ha hb hs hc =>
    rw [hc] at hi'
    rcases set_cases hi' with ⟨-, hi'⟩ | ⟨-, hi'⟩
    · cases hi'
      exact absurd rfl hr
    · exact Or.inl hi'
  | finished j other w outcome hj free found ha hb hs hc =>
    rw [hc] at hi'
    rcases set_cases hi' with ⟨-, hi'⟩ | ⟨-, hi'⟩
    · cases hi'
      rw [visit?_concluded] at hv
      cases hv
      exact Or.inr (Or.inl ⟨outcome, Or.inl ⟨ha, hb⟩, rfl⟩)
    · exact Or.inl hi'
  | heard j other w pending authority session tape hj found hs hc =>
    rw [hc] at hi'
    rcases set_cases hi' with ⟨-, hi'⟩ | ⟨-, hi'⟩
    · cases hi'
      rw [visit?_concluded] at hv
      cases hv
      -- the session is still as the call found it
      obtain ⟨hf, hb⟩ := h.asking j request w pending hj
      rw [hf] at found
      cases found
      exact Or.inr (Or.inl ⟨_, heard_yields hb authority tape, rfl⟩)
    · exact Or.inl hi'
  | left j other w r hj hs hc =>
    rw [hc] at hi'
    rcases set_cases hi' with ⟨hij, hc'⟩ | ⟨-, hi'⟩
    · subst hij
      cases hc'
      cases hv
      exact Or.inr (Or.inr ⟨r, hj, rfl⟩)
    · exact Or.inl hi'

theorem answered_step {i : Nat} {request : Request} {v : Visit} {r : Except Error request.Answer}
    (hi : t.calls[i]? = some ⟨request, .answered v r⟩) (action : Action) :
    (t.step settings action).calls[i]? = some ⟨request, .answered v r⟩ := by
  by_cases ha : action = .leave i
  · subst ha
    simp only [step, leave, hi]
  · exact calls_step_of_result hi (by simp [Stand.result?]) ha

theorem Finds.step {i : Nat} (h : t.Finds i) (action : Action) :
    (t.step settings action).Finds i := by
  obtain ⟨m, v, r, hi, hv⟩ := h
  exact ⟨m, v, r, answered_step hi action, hv⟩

/-- In a step nobody reports a completion, or a message 3 that leaves does. -/
theorem reporter_cases (t : Traffic) (action : Action) :
    (t.reporter action = [] ∧ (t.notice action).filterMap Event.completed? = []) ∨
    ∃ (i : Nat) (m : Msg3) (v : Visit) (r : Except Error Msg4), action = .leave i ∧
      t.calls[i]? = some ⟨.msg3 m, .leaving v r⟩ ∧ t.reporter action = [i] ∧
      (t.notice action).filterMap Event.completed? = [(m.sessionId, Msg4.isTrusted r)] := by
  cases action with
  | leave i =>
    rcases t.leaves_or_idle i with ⟨request, v, r, hi⟩ | ⟨-, hn, hr⟩
    · cases request with
      | msg1 m => exact Or.inl ⟨by simp [reporter, hi], by simp [notice, hi, Request.closing]⟩
      | msg3 m =>
        refine Or.inr ⟨i, m, v, r, rfl, hi, by simp [reporter, hi], ?_⟩
        cases r <;> simp [notice, hi, Request.closing, Event.completed?, Msg4.isTrusted]
    · exact Or.inl ⟨hr, by simp [hn]⟩
  | pass | openSession | purge | arrive | enter | hear => exact Or.inl ⟨rfl, rfl⟩

/-- Whoever finds its session over after a step did before, or reports in the step. -/
theorem Reported.finds_step_iff {reporters : List Nat} (hrep : t.Reported reporters)
    (h : Coherent settings t) (action : Action) (i : Nat) :
    (t.step settings action).Finds i ↔ t.Finds i ∨ i ∈ t.reporter action := by
  constructor
  · rintro ⟨m, v, r, hi', hv⟩
    rcases (t.step_effect settings action).result_cases h hi' rfl (by simp [Stand.result?]) with
      hi | ⟨outcome, hy, hc⟩ | ⟨r', hi, hc⟩
    · exact Or.inl ⟨m, v, r, hi, hv⟩
    · have hover := (isTerminal_iff_of_yields hy).mpr hv
      rw [concluded, if_pos hover] at hc
      cases hc
    · refine Or.inr ?_
      by_cases ha : action = .leave i
      · simp [ha, reporter, hi]
      · rw [calls_step_of_result hi (by simp [Stand.result?]) ha] at hi'
        cases hi'
  · rintro (hf | hr)
    · exact hf.step action
    · rcases t.reporter_cases action with ⟨hnone, -⟩ | ⟨j, m, v, r, rfl, hj, hone, -⟩
      · rw [hnone] at hr
        cases hr
      · rw [hone] at hr
        cases List.mem_singleton.mp hr
        refine ⟨m, v, r, ?_, hrep.leaving i m v r hj⟩
        simp [Traffic.step, leave, hj, set_self hj]

theorem Reported.step {reporters : List Nat} (hrep : t.Reported reporters)
    (h : Coherent settings t) (action : Action) :
    (t.step settings action).Reported (reporters ++ t.reporter action) where
  journal := by
    -- the reports of those who reported before stay as they are
    have hold : (reporters.filterMap fun i => (t.step settings action).calls[i]?.bind Call.report?) =
        reporters.filterMap fun i => t.calls[i]?.bind Call.report? := by
      refine List.filterMap_congr fun i hi => ?_
      obtain ⟨m, v, r, hi', -⟩ := (hrep.mem_iff i).mp hi
      rw [answered_step hi' action, hi']
    rw [completed_step, hrep.journal, List.filterMap_append, hold]
    rcases t.reporter_cases action with ⟨hnone, hn⟩ | ⟨i, m, v, r, rfl, hi, hone, hn⟩
    · rw [hnone, hn]
      rfl
    · have hi' : (t.step settings (.leave i)).calls[i]? = some ⟨.msg3 m, .answered v r⟩ := by
        simp [Traffic.step, leave, hi, set_self hi]
      rw [hone, hn]
      simp [hi', Call.report?]
  nodup := by
    rcases t.reporter_cases action with ⟨hnone, -⟩ | ⟨i, m, v, r, -, hi, hone, -⟩
    · simpa [hnone] using hrep.nodup
    · rw [hone]
      refine List.nodup_append.mpr ⟨hrep.nodup, by simp, ?_⟩
      rintro j hj j' hj' rfl
      cases List.mem_singleton.mp hj'
      obtain ⟨m', v', r', hi'', -⟩ := (hrep.mem_iff _).mp hj
      rw [hi] at hi''
      cases hi''
  mem_iff := by
    intro i
    rw [List.mem_append, hrep.finds_step_iff h action, hrep.mem_iff]
  leaving := by
    intro i m v r hi'
    rcases (t.step_effect settings action).result_cases h hi' rfl (by simp [Stand.result?]) with
      hi | ⟨outcome, hy, hc⟩ | ⟨r', -, hc⟩
    · exact hrep.leaving i m v r hi
    · exact (isTerminal_iff_of_yields hy).mp (leaving_of_concluded hc.symm).2
    · cases hc

theorem Reported.run {reporters : List Nat} (hrep : t.Reported reporters)
    (h : Coherent settings t) (actions : List Action) :
    (t.run settings actions).Reported (reporters ++ t.reporters settings actions) := by
  induction actions generalizing t reporters with
  | nil =>
    rw [Traffic.reporters, List.append_nil]
    exact hrep
  | cons action actions ih =>
    rw [Traffic.reporters, ← List.append_assoc]
    exact ih (hrep.step h action) (h.effect (t.step_effect settings action))

theorem Reported.start (tape : Tape) : (Traffic.start tape).Reported [] where
  journal := rfl
  nodup := List.nodup_nil
  mem_iff := by simp [Finds, Traffic.start]
  leaving := by simp [Traffic.start]

/-! ## What is reported -/

/-- The completions that are reported in traffic, and by which calls. -/
structure ReportsCompletions (t : Traffic) (reporters : List Nat) : Prop where
  /-- The journal holds the reports in order. -/
  journal : t.server.journal.filterMap Event.completed? =
    reporters.filterMap fun i => t.calls[i]?.bind Call.report?
  /-- No call reports twice. -/
  nodup : reporters.Nodup
  /-- Whoever reports is a message 3 that is answered and came when its session expected no message
  1, and every such message reports. -/
  mem_iff : ∀ i, i ∈ reporters ↔ t.Finds i
  /-- For each session, one of those who report passed at most. -/
  once : ∀ k, t.AtMostOne (·.PassedMsg3 k)
  /-- Whoever passed reports trust exactly if the secret was released. -/
  truthful : ∀ (i : Nat) (m : Msg3) (v : Visit) (r : Except Error Msg4),
    t.calls[i]? = some ⟨.msg3 m, .answered v r⟩ →
    Call.PassedMsg3 ⟨.msg3 m, .answered v r⟩ v.ticket →
    (Msg4.isTrusted r = true ↔ Call.GotSecret ⟨.msg3 m, .answered v r⟩ v.ticket)
  /-- Everyone else who reports was refused because the session was over, and denies the trust. -/
  repeats : ∀ (i : Nat) (m : Msg3) (v : Visit) (r : Except Error Msg4), i ∈ reporters →
    t.calls[i]? = some ⟨.msg3 m, .answered v r⟩ →
    ¬ Call.PassedMsg3 ⟨.msg3 m, .answered v r⟩ v.ticket →
    v.found.isTerminal = true ∧
      r = .error (.invalidState "AwaitingMsg3" v.found.phase.name) ∧
      Call.report? ⟨.msg3 m, .answered v r⟩ = some (m.sessionId, false)

/-- In every run, completions are reported by the messages 3 that ended their sessions and by those
that found them over: the former report the truth, and the latter report that there is no trust. -/
theorem completions_reported (settings : Settings) (tape : Tape) (actions : List Action) :
    ((start tape).run settings actions).ReportsCompletions
      ((start tape).reporters settings actions) := by
  have h := coherent_run settings tape actions
  have hrep := (Reported.start tape).run (Coherent.start settings tape) actions
  rw [List.nil_append] at hrep
  refine ⟨hrep.journal, hrep.nodup, hrep.mem_iff,
    h.atMostOne_passedMsg3, ?_, ?_⟩
  -- truthful
  · rintro i m v r hi ⟨⟨w, hw, -, ha⟩, -⟩
    cases hw
    obtain ⟨handshake, hphase⟩ := Phase.accepts_msg3.mp ha
    obtain ⟨outcome, hy, rfl⟩ := h.concluded i (.msg3 m) (.answered v r) v r hi rfl rfl
    obtain ⟨authority, hp⟩ := hy.process
    have htrust := Session.isTrusted_process settings authority v.tape hphase m
    rw [hp] at htrust
    rw [htrust]
    constructor
    · rintro ⟨msg4, secret, hr, hs⟩
      exact ⟨m, _, v, msg4, secret, rfl, rfl, rfl, congrArg some hr, hs⟩
    · rintro ⟨m', stand, v', msg4, secret, hc, hv, -, hr, hs⟩
      cases hc
      exact ⟨msg4, secret, Option.some.inj hr, hs⟩
  -- repeats
  · intro i m v r hmem hi hpass
    have ha : v.found.phase.accepts (.msg3 m) = false := by
      rw [← Bool.not_eq_true]
      exact fun ha => hpass ⟨⟨v, rfl, rfl, ha⟩, m, rfl⟩
    have hr := Option.some.inj (h.refuses hi rfl ha)
    obtain ⟨m', v', r', hi', hphase⟩ := (hrep.mem_iff i).mp hmem
    rw [hi] at hi'
    cases hi'
    refine ⟨?_, hr, ?_⟩
    · rw [Session.isTerminal]
      cases hp : v.found.phase <;> simp_all [Phase.isTerminal, Phase.accepts]
    · rw [Call.report?, hr]
      rfl

end Traffic

end EnclaveGate
