import EnclaveGate.Proofs.Crowd.Basic

/-!
# What crowds keep

A step in a crowd does to the sessions, to the calls and to the server what steps of traffic do. So
crowds keep what traffic keeps; beside that, whoever seeks a session holds on to an entry with the id
that the request addresses.
-/

namespace EnclaveGate

namespace Crowd

variable {settings : Settings} {c : Crowd}

/-- The invariant of crowds. -/
structure Intact (settings : Settings) (c : Crowd) : Prop where
  /-- The traffic is coherent. -/
  coherent : c.traffic.Coherent settings
  /-- Every call was admitted to a session with the id that it addressed. -/
  addressed : c.traffic.Addressed
  /-- The server is in order. -/
  orderly : c.server.Orderly settings
  /-- Whoever seeks a session holds on to an entry with the id that the request addresses. -/
  visitors : ∀ (i : Nat) (v : Visitor) (k : Ticket), c.visitors[i]? = some v →
    v.search.ticket? = some k →
    ∃ e, c.registry.get? k = some e ∧ e.session.id = v.request.sessionId

theorem Intact.start (settings : Settings) (tape : Tape) : (start tape).Intact settings where
  coherent := .start settings tape
  addressed := .start tape
  orderly := .start settings tape
  visitors := by simp [Crowd.start]

/-- A call that is about to remove its session is at an entry with the id that it addressed. -/
theorem Intact.entry_of_leaving (h : c.Intact settings) {i : Nat} {request : Request} {v : Visit}
    {r : Except Error request.Answer}
    (hi : c.traffic.calls[i]? = some ⟨request, .leaving v r⟩) :
    ∃ e, c.registry.get? v.ticket = some e ∧ e.session.id = request.sessionId := by
  obtain ⟨s, hs, hid⟩ := h.addressed i _ v.ticket hi rfl
  obtain ⟨e, he, rfl⟩ := Traffic.exists_entry _ hs
  exact ⟨e, he, hid⟩

/-! ## Removals -/

/-- A request that removes what it found idle takes it off the table. -/
theorem Intact.remove_eq (h : c.Intact settings) {i : Nat} {request : Request} {k : Ticket}
    (hi : c.visitors[i]? = some ⟨request, .idle k⟩) :
    c.registry.remove request.sessionId k = c.registry.unlist k := by
  obtain ⟨e, he, hid⟩ := h.visitors i _ k hi rfl
  exact Registry.remove_eq_unlist h.orderly.unambiguous he hid

/-- A call that leaves does in a crowd what it does in traffic. -/
theorem Intact.leave_eq (h : c.Intact settings) (i : Nat) :
    c.leave i = { c with traffic := c.traffic.leave i } := by
  by_cases hl : ∃ (request : Request) (v : Visit) (r : Except Error request.Answer),
      c.traffic.calls[i]? = some ⟨request, .leaving v r⟩
  · obtain ⟨request, v, r, hi⟩ := hl
    obtain ⟨e, he, hid⟩ := h.entry_of_leaving hi
    have hremove : c.registry.remove request.sessionId v.ticket = c.registry.unlist v.ticket :=
      Registry.remove_eq_unlist h.orderly.unambiguous he hid
    simp only [leave, Traffic.leave, hi, hremove]
    rfl
  · rw [Traffic.leave_eq_self hl, leave]
    split
    · rename_i hi
      exact absurd ⟨_, _, _, hi⟩ hl
    · rfl

/-! ## Steps -/

/-- What a step in a crowd does to the traffic: it is a step of traffic, or a part of what an arrival
is there. -/
inductive Does (settings : Settings) (t t' : Traffic) : Prop
  /-- A step of traffic is taken. -/
  | step (action : Traffic.Action) (h : t' = t.step settings action)
  /-- A request seeks its session, of which traffic knows nothing. -/
  | seek (h : t' = t)
  /-- A request finds no session and is refused. -/
  | miss (request : Request)
      (h : t' = ⟨t.server, t.calls ++ [⟨request, .refused (.sessionNotFound request.sessionId)⟩]⟩)
  /-- A request removes the session that it found idle and is refused. -/
  | expire (request : Request) (k : Ticket)
      (h : t' = ⟨{ t.server with registry := t.server.registry.unlist k }.report
          [.expired request.sessionId],
        t.calls ++ [⟨request, .refused (.sessionNotFound request.sessionId)⟩]⟩)
  /-- A request is admitted to a session with the id that it addresses. -/
  | accept (request : Request) (k : Ticket)
      (hk : ∃ e, t.server.registry.get? k = some e ∧ e.session.id = request.sessionId)
      (h : t' = ⟨{ t.server with registry := t.server.registry.touch k t.server.now },
        t.calls ++ [⟨request, .admitted k⟩]⟩)

theorem Intact.does (h : c.Intact settings) (action : Action) :
    Does settings c.traffic (c.step settings action).traffic := by
  cases action with
  | pass ms => exact .step (.pass ms) rfl
  | openSession => exact .step .openSession rfl
  | purge => exact .step .purge rfl
  | look request =>
    simp only [step, look]
    split
    · exact .miss request rfl
    · exact .seek rfl
  | judge i =>
    simp only [step, judge]
    split <;> exact .seek rfl
  | remove i =>
    simp only [step, remove]
    split
    · rename_i request k hi
      rw [h.remove_eq hi]
      exact .expire request k rfl
    · exact .seek rfl
  | accept i =>
    simp only [step, accept]
    split
    · rename_i request k hi
      exact .accept request k (h.visitors i _ k hi rfl) rfl
    · exact .seek rfl
  | enter i => exact .step (.enter i) rfl
  | hear i authority => exact .step (.hear i authority) rfl
  | leave i =>
    rw [step, h.leave_eq]
    exact .step (.leave i) rfl

namespace Does

variable {t t' : Traffic}

/-- A step in a crowd does to the sessions and to the calls what a step of traffic does. -/
theorem effect (h : Does settings t t') : Traffic.Effect settings t t' := by
  cases h with
  | step action h =>
    subst h
    exact t.step_effect settings action
  | seek h =>
    subst h
    exact .still rfl rfl
  | miss request h =>
    subst h
    exact .refused request _ rfl rfl
  | expire request k h =>
    subst h
    refine .refused request _ ?_ rfl
    simp [Traffic.sessions, Server.sessions, Server.report]
  | accept request k hk h =>
    subst h
    obtain ⟨e, he, hid⟩ := hk
    refine .admitted request k ⟨e.session, t.sessions_getElem?_eq he, hid⟩ ?_ rfl
    simp [Traffic.sessions, Server.sessions]

/-- A step in a crowd changes the server in one of the ways. -/
theorem change (h : Does settings t t') : t.server.Change settings t'.server := by
  cases h with
  | step action h =>
    subst h
    exact t.step_change settings action
  | seek h | miss request h =>
    subst h
    exact .still rfl rfl
  | expire request k h =>
    subst h
    exact .expired k request.sessionId rfl rfl
  | accept request k hk h =>
    subst h
    exact .touched k rfl rfl

theorem now_le (h : Does settings t t') : t.server.now ≤ t'.server.now := by
  cases h with
  | step action h =>
    subst h
    exact t.now_le_step settings action
  | seek h | miss request h | expire request k h | accept request k hk h =>
    subst h
    exact Nat.le_refl _

end Does

/-- A step leaves those who seek a session where they are, or lets one come or go on. -/
theorem visitors_step (settings : Settings) (c : Crowd) (action : Action) :
    (c.step settings action).visitors = c.visitors ∨
    (∃ request k, c.registry.find? request.sessionId = some k ∧
      (c.step settings action).visitors = c.visitors ++ [⟨request, .found k⟩]) ∨
    ∃ (i : Nat) (request : Request) (search search' : Search),
      c.visitors[i]? = some ⟨request, search⟩ ∧
      (∀ k, search'.ticket? = some k → search.ticket? = some k) ∧
      (c.step settings action).visitors = c.visitors.set i ⟨request, search'⟩ := by
  cases action with
  | pass | openSession | purge | enter | hear => exact Or.inl rfl
  | look request =>
    simp only [step, look]
    split
    · exact Or.inl rfl
    · rename_i k hf
      exact Or.inr (Or.inl ⟨request, k, hf, rfl⟩)
  | judge i =>
    simp only [step, judge]
    split
    · rename_i request k hi
      refine Or.inr (Or.inr ⟨i, request, _, _, hi, fun j hj => ?_, rfl⟩)
      split at hj <;> exact hj
    · exact Or.inl rfl
  | remove i =>
    simp only [step, remove]
    split
    · rename_i request k hi
      exact Or.inr (Or.inr ⟨i, request, _, .ended, hi, nofun, rfl⟩)
    · exact Or.inl rfl
  | accept i =>
    simp only [step, accept]
    split
    · rename_i request k hi
      exact Or.inr (Or.inr ⟨i, request, _, .ended, hi, nofun, rfl⟩)
    · exact Or.inl rfl
  | leave i =>
    simp only [step, leave]
    split <;> exact Or.inl rfl

theorem Intact.step (h : c.Intact settings) (action : Action) :
    (c.step settings action).Intact settings where
  coherent := h.coherent.effect (h.does action).effect
  addressed := h.addressed.effect h.coherent (h.does action).effect
  orderly := h.orderly.change (h.does action).change (h.does action).now_le
  visitors := by
    have keep : ∀ {k : Ticket} {id : SessionId},
        (∃ e, c.registry.get? k = some e ∧ e.session.id = id) →
        ∃ e, (c.step settings action).registry.get? k = some e ∧ e.session.id = id := by
      rintro k id ⟨e, he, rfl⟩
      obtain ⟨e', he', ha⟩ := (h.does action).change.get?_left he
      exact ⟨e', he', ha.id_eq⟩
    intro i v k hi hk
    rcases c.visitors_step settings action with
      hv | ⟨request, j, hf, hv⟩ | ⟨j, request, search, search', hj, hs, hv⟩
    · exact keep (h.visitors i v k (hv ▸ hi) hk)
    · rw [hv] at hi
      rcases Traffic.append_cases hi with hi | rfl
      · exact keep (h.visitors i v k hi hk)
      · cases hk
        obtain ⟨e, he, -, hid⟩ := Registry.lists_of_find? hf
        exact keep ⟨e, he, hid⟩
    · rw [hv] at hi
      rcases Traffic.set_cases hi with ⟨rfl, rfl⟩ | ⟨-, hi⟩
      · exact keep (h.visitors _ ⟨request, search⟩ k hj (hs k hk))
      · exact keep (h.visitors i v k hi hk)

theorem Intact.run (h : c.Intact settings) (actions : List Action) :
    (c.run settings actions).Intact settings := by
  induction actions generalizing c with
  | nil => exact h
  | cons action actions ih => exact ih (h.step action)

theorem intact_run (settings : Settings) (tape : Tape) (actions : List Action) :
    ((Crowd.start tape).run settings actions).Intact settings :=
  (Intact.start settings tape).run actions

end Crowd

end EnclaveGate
