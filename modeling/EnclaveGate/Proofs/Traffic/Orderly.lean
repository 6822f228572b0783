import EnclaveGate.Proofs.Server.Orderly
import EnclaveGate.Proofs.Traffic.Listing

/-!
# Order in traffic

A server stays in order in every run of traffic, and wherever a run starts it never comes to list two
sessions under one id. A session that is over is listed only as long as a call that ended it, or
found it over, has not left it. An entry keeps its session's id and is never less recently active
than it was.
-/

namespace EnclaveGate

namespace Traffic

variable {settings : Settings} {t : Traffic}

/-! ## Changes -/

theorem conclude_change {i : Nat} {request : Request} {visit : Visit}
    {outcome : Outcome request.Answer} {tape : Tape} (entry : Entry)
    (he : t.server.registry.get? visit.ticket = some entry)
    (hid : outcome.session.id = entry.session.id) (hq : Event.AreBySession outcome.events) :
    t.server.Change settings (t.conclude i request visit outcome tape).server :=
  .stored visit.ticket entry outcome.session outcome.events he hid hq rfl rfl

theorem enter_change (i : Nat) : t.server.Change settings (t.enter settings i).server := by
  rcases t.enter_cases settings i with hs | ⟨_, _, _, _, _, _, _, _, _, hs⟩ |
    ⟨request, k, entry, outcome, tape, -, -, he, hb, hs⟩ <;> rw [hs]
  · exact .still rfl rfl
  · exact .still rfl rfl
  · have hb' := congrArg Prod.fst hb
    exact conclude_change entry he (Session.id_of_begin hb') (Session.events_begin _ _ _ hb')

theorem hear_change (i : Nat) (authority : Authority) :
    t.server.Change settings (t.hear settings i authority).server := by
  rcases t.hear_cases settings i authority with hs | ⟨request, visit, pending, entry, -, he, hs⟩ <;>
    rw [hs]
  · exact .still rfl rfl
  · refine conclude_change entry ?_ (Session.id_finish authority pending)
      (Session.events_finish settings authority entry.session t.server.tape request pending)
    rwa [ticket_heard]

theorem step_change (settings : Settings) (t : Traffic) (action : Action) :
    t.server.Change settings (t.step settings action).server := by
  cases action with
  | pass ms => exact .still rfl rfl
  | openSession => exact t.server.openSession_change settings
  | purge => exact t.server.purge_change settings
  | arrive request =>
    have hc := t.server.route_change settings request.sessionId
    simp only [step, arrive]
    split <;> rename_i hr <;> rw [hr] at hc <;> exact hc
  | enter i => exact enter_change i
  | hear i authority => exact hear_change i authority
  | leave i =>
    simp only [step, leave]
    split
    · rename_i request visit result _
      exact .left visit.ticket request result rfl rfl
    · exact .still rfl rfl

theorem now_le_step (settings : Settings) (t : Traffic) (action : Action) :
    t.server.now ≤ (t.step settings action).server.now := by
  rw [now_step]
  exact Nat.le_add_right ..

/-- A server stays in order in every run. -/
theorem orderly_run (actions : List Action) (h : t.server.Orderly settings) :
    (t.run settings actions).server.Orderly settings := by
  induction actions generalizing t with
  | nil => exact h
  | cons action actions ih =>
    exact ih (h.change (t.step_change settings action) (t.now_le_step settings action))

/-! ## Ids -/

/-- A step never lists two sessions under one id. -/
theorem Unambiguous.step (h : Unambiguous t) (action : Action) :
    Unambiguous (t.step settings action) := (t.step_change settings action).unambiguous h

/-- No two sessions are listed under one id, wherever a run leads. -/
theorem Unambiguous.run (h : Unambiguous t) (actions : List Action) :
    Unambiguous (t.run settings actions) := by
  induction actions generalizing t with
  | nil => exact h
  | cons action actions ih => exact ih (h.step action)

theorem unambiguous_run (settings : Settings) (tape : Tape) (actions : List Action) :
    Unambiguous ((start tape).run settings actions) := by
  refine Unambiguous.run ?_ actions
  rintro j k id ⟨e, hg, -⟩ -
  simp [start, Server.start, Registry.empty, Registry.get?] at hg

/-! ## Activity -/

/-- An entry keeps its id and its activity is never moved back, whatever happens. -/
theorem entry_run (actions : List Action) (h : t.server.Orderly settings) {k : Ticket} {e : Entry}
    (hk : t.server.registry.get? k = some e) :
    ∃ e', (t.run settings actions).server.registry.get? k = some e' ∧
      e'.session.id = e.session.id ∧ e.lastActive ≤ e'.lastActive := by
  induction actions generalizing t e with
  | nil => exact ⟨e, hk, rfl, Nat.le_refl _⟩
  | cons action actions ih =>
    have hc := t.step_change settings action
    have ho := h.change hc (t.now_le_step settings action)
    obtain ⟨e₁, he₁, hage⟩ := hc.get?_left hk
    obtain ⟨e₂, he₂, hid₂, ha₂⟩ := ih ho he₁
    exact ⟨e₂, he₂, hid₂.trans hage.id_eq,
      Nat.le_trans (hage.le_lastActive (Nat.le_refl _) (h.past k e hk)) ha₂⟩

/-- No step moves the activity of a session back. -/
theorem activeSince_step {k : Ticket} {time : Nat} (h : t.server.registry.ActiveSince k time)
    (ht : time ≤ t.server.now) (action : Action) :
    (t.step settings action).server.registry.ActiveSince k time := by
  obtain ⟨e, he, hactive⟩ := h
  obtain ⟨e', he', hage⟩ := (t.step_change settings action).get?_left he
  exact ⟨e', he', hage.le_lastActive hactive ht⟩

theorem activeSince_run {k : Ticket} {time : Nat} (settings : Settings) (actions : List Action)
    (h : t.server.registry.ActiveSince k time) (ht : time ≤ t.server.now) :
    (t.run settings actions).server.registry.ActiveSince k time ∧
      (t.run settings actions).server.now = t.server.now + elapsed actions := by
  induction actions generalizing t with
  | nil => exact ⟨h, rfl⟩
  | cons action actions ih =>
    have hnow : (t.step settings action).server.now = t.server.now + elapsed [action] :=
      now_step action
    have ht' : time ≤ (t.step settings action).server.now := by omega
    obtain ⟨hr, hn⟩ := ih (activeSince_step h ht action) ht'
    have helapsed : elapsed (action :: actions) = elapsed [action] + elapsed actions :=
      elapsed_append [action] actions
    refine ⟨hr, ?_⟩
    rw [run_cons, hn, hnow, helapsed, Nat.add_assoc]

/-! ## Sessions that are over -/

/-- A call is about to remove a session. -/
def Leaves (t : Traffic) (k : Ticket) : Prop :=
  ∃ (i : Nat) (request : Request) (v : Visit) (r : Except Error request.Answer),
    t.calls[i]? = some ⟨request, .leaving v r⟩ ∧ v.ticket = k

/-- A session that is over is listed only while a call is about to remove it. -/
def Tidy (t : Traffic) : Prop :=
  ∀ (k : Ticket) (id : SessionId) (s : Session), t.Lists k id → t.sessions[k]? = some s →
    s.isTerminal = true → t.Leaves k

/-- What is listed after a step and was known before was listed before. -/
theorem lists_of_step {k : Ticket} {id : SessionId} {s : Session} {action : Action}
    (hk : t.sessions[k]? = some s) (h : (t.step settings action).Lists k id) : t.Lists k id := by
  rcases (t.step_change settings action).ages_or_opened with ⟨hr, -⟩ | ⟨new, -, -, hr, -⟩
  · exact hr.lists h
  · have hroom := Registry.Ages.makeRoom t.server.registry settings t.server.now t.server.now
    simp only [Lists, hr] at h
    rcases Registry.lists_add.mp h with h | ⟨h, -⟩
    · exact hroom.lists h
    · obtain ⟨hl, -⟩ := List.getElem?_eq_some_iff.mp hk
      rw [hroom.length_eq] at h
      simp only [sessions, Server.sessions, Registry.length_sessions] at hl
      exact absurd (h ▸ hl) (Nat.lt_irrefl _)

theorem Tidy.step (h : t.Tidy) (action : Action) : (t.step settings action).Tidy := by
  intro k id s hlist hs hover
  -- whoever is about to remove the session still is, unless it just did
  have stays : t.Leaves k → (t.step settings action).Leaves k := by
    rintro ⟨i, request, v, r, hi, hv⟩
    by_cases ha : action = .leave i
    · subst ha
      exact absurd ⟨request, v, r, hi, hv⟩ ((lists_leave_iff i).mp hlist).2
    · exact ⟨i, request, v, r, calls_step_of_result hi (by simp [Stand.result?]) ha, hv⟩
  have old : t.sessions[k]? = some s → (t.step settings action).Leaves k :=
    fun hs => stays (h k id s (lists_of_step hs hlist) hs hover)
  -- a call that ends the session is about to remove it
  have ends : ∀ {i : Nat} {c : Call} {request : Request} {v : Visit}
      {outcome : Outcome request.Answer}, t.calls[i]? = some c →
      (t.step settings action).sessions = t.sessions.set v.ticket outcome.session →
      (t.step settings action).calls = t.calls.set i ⟨request, concluded v outcome⟩ →
      (t.step settings action).Leaves k := by
    intro i c request v outcome hi hs' hc
    rw [hs', List.getElem?_set] at hs
    split at hs
    · rename_i hk
      split at hs
      · cases hs
        refine ⟨i, request, v, outcome.result, ?_, hk⟩
        rw [hc, set_self hi, concluded, if_pos hover]
      · cases hs
    · exact old hs
  cases t.step_effect settings action with
  | still hs' hc => exact old (hs' ▸ hs)
  | opened new hs' hc =>
    rw [hs'] at hs
    rcases append_cases hs with hs | rfl
    · exact old hs
    · cases hover
  | refused request cause hs' hc => exact old (hs' ▸ hs)
  | admitted request ticket hk hs' hc => exact old (hs' ▸ hs)
  | asked i request v pending hi free found ha hb hs' hc => exact old (hs' ▸ hs)
  | finished i request v outcome hi free found ha hb hs' hc => exact ends hi hs' hc
  | heard i request v pending authority session tape hi found hs' hc =>
    refine ends hi ?_ hc
    rw [hs', ticket_heard]
  | left i request v r hi hs' hc => exact old (hs' ▸ hs)

theorem Tidy.run (h : t.Tidy) (actions : List Action) : (t.run settings actions).Tidy := by
  induction actions generalizing t with
  | nil => exact h
  | cons action actions ih => exact ih (h.step action)

theorem tidy_run (settings : Settings) (tape : Tape) (actions : List Action) :
    ((start tape).run settings actions).Tidy := by
  refine Tidy.run ?_ actions
  rintro k id s ⟨e, hg, -⟩
  simp [start, Server.start, Registry.empty, Registry.get?] at hg

end Traffic

end EnclaveGate
