import EnclaveGate.Proofs.Session.Forward
import EnclaveGate.Proofs.Traffic.Basic

/-!
# The steps of traffic

What a step does to the sessions and to the calls, said once for everything that runs of steps keep.
-/

namespace EnclaveGate

namespace Traffic

section Lists

variable {α : Type} {xs : List α} {i j : Nat} {c d : α}

/-- What is at another place is not touched. -/
theorem set_cases (h : (xs.set i c)[j]? = some d) : j = i ∧ d = c ∨ j ≠ i ∧ xs[j]? = some d := by
  rw [List.getElem?_set] at h
  by_cases hij : i = j
  · subst hij
    simp only [if_true] at h
    split at h
    · exact Or.inl ⟨rfl, by simpa using h.symm⟩
    · exact absurd h (by simp)
  · rw [if_neg hij] at h
    exact Or.inr ⟨fun e => hij e.symm, h⟩

theorem set_self (h : xs[i]? = some d) : (xs.set i c)[i]? = some c := by
  obtain ⟨hl, -⟩ := List.getElem?_eq_some_iff.mp h
  rw [List.getElem?_set_self hl]

theorem append_cases (h : (xs ++ [c])[j]? = some d) : xs[j]? = some d ∨ d = c := by
  rw [List.getElem?_append] at h
  split at h
  · exact Or.inl h
  · rcases hj : j - xs.length with - | n
    · rw [hj] at h
      exact Or.inr (by simpa using h.symm)
    · rw [hj] at h
      simp at h

/-- What is in a list is still there after something was added. -/
theorem append_left (h : xs[j]? = some d) (c : α) : (xs ++ [c])[j]? = some d := by
  obtain ⟨hl, -⟩ := List.getElem?_eq_some_iff.mp h
  rw [List.getElem?_append_left hl, h]

end Lists

end Traffic

/-! ## Visits -/

/-- What the processing of a request on a visit comes to: it is over at once, or after the answer of
the authority. -/
def Visit.Yields (settings : Settings) (visit : Visit) (request : Request)
    (outcome : Outcome request.Answer) : Prop :=
  (visit.authority = none ∧
    (visit.found.begin settings visit.tape request).1 = .finished outcome) ∨
  ∃ authority pending, visit.authority = some authority ∧
    (visit.found.begin settings visit.tape request).1 = .asking pending ∧
    (visit.found.finish settings authority visit.tape request pending).1 = outcome

/-- A visit comes to what the processing of the request comes to while nothing else happens. -/
theorem Visit.Yields.process {settings : Settings} {visit : Visit} {request : Request}
    {outcome : Outcome request.Answer} (h : visit.Yields settings request outcome) :
    ∃ authority, (visit.found.process settings authority visit.tape request).1 = outcome := by
  rcases hbt : visit.found.begin settings visit.tape request with ⟨stage, rest⟩
  simp only [Visit.Yields, Session.process, hbt] at h ⊢
  rcases h with ⟨-, hb⟩ | ⟨authority, pending, -, hb, hf⟩
  · subst hb
    exact ⟨default, rfl⟩
  · subst hb
    refine ⟨authority, ?_⟩
    rw [← hf]
    cases request with
    | msg1 m => rfl
    | msg3 m =>
      have hrest : visit.tape = rest := congrArg Prod.snd hbt
      rw [hrest]

namespace Traffic

/-- The visit of a call that is answered by an authority comes to what the answer brings about. -/
theorem heard_yields {settings : Settings} {visit : Visit} {request : Request}
    {pending : request.Pending}
    (hb : (visit.found.begin settings visit.tape request).1 = .asking pending)
    (authority : Authority) (tape : Tape) :
    (heard authority tape request visit).Yields settings request
      (visit.found.finish settings authority tape request pending).1 := by
  cases request with
  | msg1 m => exact Or.inr ⟨authority, pending, rfl, hb, rfl⟩
  | msg3 m => exact Or.inr ⟨authority, pending, rfl, hb, rfl⟩

@[simp] theorem ticket_heard (authority : Authority) (tape : Tape) (request : Request)
    (visit : Visit) : (heard authority tape request visit).ticket = visit.ticket := by
  cases request <;> rfl

@[simp] theorem found_heard (authority : Authority) (tape : Tape) (request : Request)
    (visit : Visit) : (heard authority tape request visit).found = visit.found := by
  cases request <;> rfl

/-! ## Steps -/

/-- Where a call stands when its processing is over. -/
def concluded {request : Request} (visit : Visit) (outcome : Outcome request.Answer) :
    Stand request :=
  if outcome.session.isTerminal then .leaving visit outcome.result
  else .answered visit outcome.result

@[simp] theorem visit?_concluded {request : Request} (visit : Visit)
    (outcome : Outcome request.Answer) : (concluded visit outcome).visit? = some visit := by
  unfold concluded
  split <;> rfl

@[simp] theorem result?_concluded {request : Request} (visit : Visit)
    (outcome : Outcome request.Answer) :
    (concluded visit outcome).result? = some outcome.result := by
  unfold concluded
  split <;> rfl

@[simp] theorem holds?_concluded {request : Request} (visit : Visit)
    (outcome : Outcome request.Answer) : (concluded visit outcome).holds? = none := by
  unfold concluded
  split <;> rfl

/-- What a step does to the sessions and to the calls. -/
inductive Effect (settings : Settings) (t t' : Traffic) : Prop
  /-- No session and no call changes. -/
  | still (hs : t'.sessions = t.sessions) (hc : t'.calls = t.calls)
  /-- A session is opened. -/
  | opened (id : SessionId) (hs : t'.sessions = t.sessions ++ [Session.start id])
      (hc : t'.calls = t.calls)
  /-- A call arrives and is refused. -/
  | refused (request : Request) (cause : Error) (hs : t'.sessions = t.sessions)
      (hc : t'.calls = t.calls ++ [⟨request, .refused cause⟩])
  /-- A call arrives and is admitted. -/
  | admitted (request : Request) (ticket : Ticket)
      (hk : ∃ s, t.sessions[ticket]? = some s ∧ s.id = request.sessionId)
      (hs : t'.sessions = t.sessions) (hc : t'.calls = t.calls ++ [⟨request, .admitted ticket⟩])
  /-- A call gets its session and asks the authority. -/
  | asked (i : Nat) (request : Request) (visit : Visit) (pending : request.Pending)
      (hi : t.calls[i]? = some ⟨request, .admitted visit.ticket⟩)
      (free : t.isHeld visit.ticket = false)
      (found : t.sessions[visit.ticket]? = some visit.found) (ha : visit.authority = none)
      (hb : (visit.found.begin settings visit.tape request).1 = .asking pending)
      (hs : t'.sessions = t.sessions) (hc : t'.calls = t.calls.set i ⟨request, .asking visit pending⟩)
  /-- A call gets its session and is over. -/
  | finished (i : Nat) (request : Request) (visit : Visit) (outcome : Outcome request.Answer)
      (hi : t.calls[i]? = some ⟨request, .admitted visit.ticket⟩)
      (free : t.isHeld visit.ticket = false)
      (found : t.sessions[visit.ticket]? = some visit.found) (ha : visit.authority = none)
      (hb : (visit.found.begin settings visit.tape request).1 = .finished outcome)
      (hs : t'.sessions = t.sessions.set visit.ticket outcome.session)
      (hc : t'.calls = t.calls.set i ⟨request, concluded visit outcome⟩)
  /-- A call hears from the authority and is over. -/
  | heard (i : Nat) (request : Request) (visit : Visit) (pending : request.Pending)
      (authority : Authority) (session : Session) (tape : Tape)
      (hi : t.calls[i]? = some ⟨request, .asking visit pending⟩)
      (found : t.sessions[visit.ticket]? = some session)
      (hs : t'.sessions = t.sessions.set visit.ticket
        (session.finish settings authority tape request pending).1.session)
      (hc : t'.calls = t.calls.set i ⟨request, concluded (Traffic.heard authority tape request visit)
        (session.finish settings authority tape request pending).1⟩)
  /-- A call removes its session. -/
  | left (i : Nat) (request : Request) (visit : Visit) (result : Except Error request.Answer)
      (hi : t.calls[i]? = some ⟨request, .leaving visit result⟩) (hs : t'.sessions = t.sessions)
      (hc : t'.calls = t.calls.set i ⟨request, .answered visit result⟩)

variable (settings : Settings) (t : Traffic)

theorem sessions_getElem?_eq {k : Ticket} {entry : Entry}
    (h : t.server.registry.get? k = some entry) : t.sessions[k]? = some entry.session := by
  simp [sessions, Server.sessions, Registry.sessions_getElem?, h]

theorem exists_entry {k : Ticket} {s : Session} (h : t.sessions[k]? = some s) :
    ∃ entry, t.server.registry.get? k = some entry ∧ entry.session = s := by
  have he := t.server.registry.sessions_getElem? k
  rw [show t.server.registry.sessions[k]? = some s from h] at he
  exact Option.map_eq_some_iff.mp he.symm

theorem conclude_sessions (i : Nat) (request : Request) (visit : Visit)
    (outcome : Outcome request.Answer) (tape : Tape) :
    (t.conclude i request visit outcome tape).sessions =
      t.sessions.set visit.ticket outcome.session := by
  simp [conclude, sessions, Server.sessions, Server.report]

theorem conclude_calls (i : Nat) (request : Request) (visit : Visit)
    (outcome : Outcome request.Answer) (tape : Tape) :
    (t.conclude i request visit outcome tape).calls =
      t.calls.set i ⟨request, concluded visit outcome⟩ := rfl

theorem arrive_effect (request : Request) : Effect settings t (t.arrive settings request) := by
  obtain ⟨hs, hk⟩ := t.server.route_cases settings request.sessionId
  simp only [arrive]
  rcases hr : t.server.route settings request.sessionId with ⟨cause | ticket, server⟩
  · rw [hr] at hs
    exact .refused request cause hs rfl
  · rw [hr] at hs hk
    obtain ⟨hf, -⟩ := hk ticket rfl
    refine .admitted request ticket ?_ hs rfl
    obtain ⟨hl, he, -⟩ := List.findIdx?_eq_some_iff_getElem.mp hf
    have hg : t.server.registry.get? ticket = some t.server.registry.entries[ticket] :=
      List.getElem?_eq_getElem hl
    simp only [Bool.and_eq_true, beq_iff_eq] at he
    exact ⟨_, t.sessions_getElem?_eq hg, he.2⟩

/-- A call that tries to get its session has no turn, or asks the authority there, or is over there
at once. -/
theorem enter_cases (i : Nat) :
    t.enter settings i = t ∨
    (∃ (request : Request) (k : Ticket) (entry : Entry) (pending : request.Pending) (tape : Tape),
      t.calls[i]? = some ⟨request, .admitted k⟩ ∧ t.isHeld k = false ∧
      t.server.registry.get? k = some entry ∧
      entry.session.begin settings t.server.tape request = (.asking pending, tape) ∧
      t.enter settings i = ⟨{ t.server with tape }, t.calls.set i
        ⟨request, .asking ⟨k, entry.session, t.server.tape, none⟩ pending⟩⟩) ∨
    ∃ (request : Request) (k : Ticket) (entry : Entry) (outcome : Outcome request.Answer)
      (tape : Tape),
      t.calls[i]? = some ⟨request, .admitted k⟩ ∧ t.isHeld k = false ∧
      t.server.registry.get? k = some entry ∧
      entry.session.begin settings t.server.tape request = (.finished outcome, tape) ∧
      t.enter settings i =
        t.conclude i request ⟨k, entry.session, t.server.tape, none⟩ outcome tape := by
  unfold enter
  split
  · rename_i request k hi
    split
    · exact Or.inl rfl
    · rename_i free
      rw [Bool.not_eq_true] at free
      split
      · exact Or.inl rfl
      · rename_i entry he
        rcases hb : entry.session.begin settings t.server.tape request with ⟨outcome | pending, tape⟩
        · refine Or.inr (Or.inr ⟨request, k, entry, outcome, tape, hi, free, he, hb, ?_⟩)
          simp only [hb]
        · refine Or.inr (Or.inl ⟨request, k, entry, pending, tape, hi, free, he, hb, ?_⟩)
          simp only [hb]
  · exact Or.inl rfl

/-- A call that is to hear from the authority stays where it is, or is over with the answer. -/
theorem hear_cases (i : Nat) (authority : Authority) :
    t.hear settings i authority = t ∨
    ∃ (request : Request) (visit : Visit) (pending : request.Pending) (entry : Entry),
      t.calls[i]? = some ⟨request, .asking visit pending⟩ ∧
      t.server.registry.get? visit.ticket = some entry ∧
      t.hear settings i authority =
        t.conclude i request (heard authority t.server.tape request visit)
          (entry.session.finish settings authority t.server.tape request pending).1
          (entry.session.finish settings authority t.server.tape request pending).2 := by
  unfold hear
  split
  · rename_i request visit pending hi
    dsimp only
    split
    · exact Or.inl rfl
    · rename_i entry he
      exact Or.inr ⟨request, visit, pending, entry, hi, he, rfl⟩
  · exact Or.inl rfl

theorem enter_effect (i : Nat) : Effect settings t (t.enter settings i) := by
  rcases t.enter_cases settings i with
    hs | ⟨request, k, entry, pending, tape, hi, free, he, hb, hs⟩ |
    ⟨request, k, entry, outcome, tape, hi, free, he, hb, hs⟩ <;> rw [hs]
  · exact .still rfl rfl
  · exact .asked i request ⟨k, entry.session, t.server.tape, none⟩ pending hi free
      (t.sessions_getElem?_eq he) rfl (congrArg Prod.fst hb) rfl rfl
  · exact .finished i request ⟨k, entry.session, t.server.tape, none⟩ outcome hi free
      (t.sessions_getElem?_eq he) rfl (congrArg Prod.fst hb) (t.conclude_sessions ..) rfl

theorem hear_effect (i : Nat) (authority : Authority) :
    Effect settings t (t.hear settings i authority) := by
  rcases t.hear_cases settings i authority with hs | ⟨request, visit, pending, entry, hi, he, hs⟩ <;>
    rw [hs]
  · exact .still rfl rfl
  · refine .heard i request visit pending authority entry.session t.server.tape hi
      (t.sessions_getElem?_eq he) ?_ (t.conclude_calls ..)
    rw [conclude_sessions, ticket_heard]

theorem leave_effect (i : Nat) : Effect settings t (t.leave i) := by
  unfold leave
  split
  · rename_i request visit result hi
    exact .left i request visit result hi (by simp [sessions, Server.sessions, Server.report]) rfl
  · exact .still rfl rfl

/-! ## One call -/

section Call

variable {settings t} {i : Nat} {request : Request}

/-- A call whose session is free begins there, and may be over at once. -/
theorem enter_of_finished {k : Ticket} {entry : Entry} {outcome : Outcome request.Answer}
    {tape : Tape} (hi : t.calls[i]? = some ⟨request, .admitted k⟩) (free : t.isHeld k = false)
    (he : t.server.registry.get? k = some entry)
    (hb : entry.session.begin settings t.server.tape request = (.finished outcome, tape)) :
    t.enter settings i =
      t.conclude i request ⟨k, entry.session, t.server.tape, none⟩ outcome tape := by
  simp only [enter, hi, free, he, hb, Bool.false_eq_true, if_false]

/-- A call whose session is free begins there, and may ask the authority. -/
theorem enter_of_asking {k : Ticket} {entry : Entry} {pending : request.Pending} {tape : Tape}
    (hi : t.calls[i]? = some ⟨request, .admitted k⟩) (free : t.isHeld k = false)
    (he : t.server.registry.get? k = some entry)
    (hb : entry.session.begin settings t.server.tape request = (.asking pending, tape)) :
    t.enter settings i =
      ⟨{ t.server with tape }, t.calls.set i
        ⟨request, .asking ⟨k, entry.session, t.server.tape, none⟩ pending⟩⟩ := by
  simp only [enter, hi, free, he, hb, Bool.false_eq_true, if_false]

/-- A call that hears from the authority ends its processing. -/
theorem hear_eq {visit : Visit} {pending : request.Pending} {entry : Entry}
    (hi : t.calls[i]? = some ⟨request, .asking visit pending⟩)
    (he : t.server.registry.get? visit.ticket = some entry) (authority : Authority) :
    t.hear settings i authority =
      t.conclude i request (heard authority t.server.tape request visit)
        (entry.session.finish settings authority t.server.tape request pending).1
        (entry.session.finish settings authority t.server.tape request pending).2 := by
  simp only [hear, hi, he]

end Call

/-! ## Other calls -/

/-- A call that gets its session changes no other call. -/
theorem calls_enter_ne {i j : Nat} (h : j ≠ i) : (t.enter settings j).calls[i]? = t.calls[i]? := by
  rcases t.enter_cases settings j with hs | ⟨_, _, _, _, _, _, _, _, _, hs⟩ |
    ⟨_, _, _, _, _, _, _, _, _, hs⟩ <;> rw [hs]
  · exact List.getElem?_set_ne h
  · exact List.getElem?_set_ne h

/-- A call that hears from the authority changes no other call. -/
theorem calls_hear_ne {i j : Nat} (h : j ≠ i) (authority : Authority) :
    (t.hear settings j authority).calls[i]? = t.calls[i]? := by
  rcases t.hear_cases settings j authority with hs | ⟨_, _, _, _, _, _, hs⟩ <;> rw [hs]
  exact List.getElem?_set_ne h

/-- A call that removes its session changes no other call. -/
theorem calls_leave_ne {i j : Nat} (h : j ≠ i) : (t.leave j).calls[i]? = t.calls[i]? := by
  unfold leave
  split
  · exact List.getElem?_set_ne h
  · rfl

/-- The call that takes a step. -/
def Action.call? : Action → Option Nat
  | enter i | hear i _ | leave i => some i
  | pass _ | openSession | purge | arrive _ => none

section Others

variable {settings : Settings} {t : Traffic} {i : Nat}

/-- A step of another call leaves a call where it stands. -/
theorem calls_step_ne {action : Action} {c : Call} (h : action.call? ≠ some i)
    (hi : t.calls[i]? = some c) : (t.step settings action).calls[i]? = some c := by
  cases action with
  | pass ms => exact hi
  | openSession => exact hi
  | purge => exact hi
  | arrive request =>
    rw [step, arrive]
    split <;> exact append_left hi _
  | enter j => exact (t.calls_enter_ne settings fun hj => h (congrArg some hj)).trans hi
  | hear j authority => exact (t.calls_hear_ne settings (fun hj => h (congrArg some hj)) _).trans hi
  | leave j => exact (t.calls_leave_ne fun hj => h (congrArg some hj)).trans hi

theorem calls_run_ne {actions : List Action} {c : Call} (h : ∀ a ∈ actions, a.call? ≠ some i)
    (hi : t.calls[i]? = some c) : (t.run settings actions).calls[i]? = some c := by
  induction actions generalizing t with
  | nil => exact hi
  | cons action actions ih =>
    have hc : (t.step settings action).calls[i]? = some c := calls_step_ne (h action (by simp)) hi
    exact ih (fun a ha => h a (by simp [ha])) hc

/-- A call whose processing is over stands where it is until it leaves. -/
theorem calls_step_of_result {action : Action} {c : Call} (hi : t.calls[i]? = some c)
    (hr : c.stand.result? ≠ none) (ha : action ≠ .leave i) :
    (t.step settings action).calls[i]? = some c := by
  by_cases hcall : action.call? = some i
  · cases action with
    | enter j =>
      cases hcall
      rcases t.enter_cases settings i with hs | ⟨_, _, _, _, _, hadm, -⟩ | ⟨_, _, _, _, _, hadm, -⟩
      · rwa [step, hs]
      · cases hi.symm.trans hadm
        exact absurd rfl hr
      · cases hi.symm.trans hadm
        exact absurd rfl hr
    | hear j authority =>
      cases hcall
      rcases t.hear_cases settings i authority with hs | ⟨_, _, _, _, hask, -⟩
      · rwa [step, hs]
      · cases hi.symm.trans hask
        exact absurd rfl hr
    | leave j =>
      cases hcall
      exact absurd rfl ha
    | pass | openSession | purge | arrive => cases hcall
  · exact calls_step_ne hcall hi

/-- Whoever is not about to remove its session does nothing by it. -/
theorem leave_eq_self (h : ¬ ∃ (request : Request) (v : Visit) (r : Except Error request.Answer),
    t.calls[i]? = some ⟨request, .leaving v r⟩) : t.leave i = t := by
  unfold leave
  split
  · rename_i hi
    exact absurd ⟨_, _, _, hi⟩ h
  · rfl

end Others

/-! ## Any step -/

/-- Every step has one of the effects. -/
theorem step_effect (action : Action) : Effect settings t (t.step settings action) := by
  cases action with
  | pass ms => exact .still rfl rfl
  | openSession =>
    rcases t.server.openSession_cases settings with ⟨-, -, hs⟩ | ⟨challenge, -, hs⟩
    · exact .still hs rfl
    · exact .opened challenge.sessionId hs rfl
  | purge => exact .still (t.server.sessions_purge settings) rfl
  | arrive request => exact t.arrive_effect settings request
  | enter i => exact t.enter_effect settings i
  | hear i authority => exact t.hear_effect settings i authority
  | leave i => exact t.leave_effect settings i

end Traffic

end EnclaveGate
