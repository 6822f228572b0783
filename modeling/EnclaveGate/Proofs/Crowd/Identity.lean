import EnclaveGate.Proofs.Crowd.Invariant
import EnclaveGate.Proofs.Session.Offer

/-!
# An id that is given again

A request or a call that came for one session never touches another one, even if the other one has
been given the same id meanwhile. So a session leaves the table for reasons of its own only: it
ended, it was idle for too long, or it had to make room.
-/

namespace EnclaveGate

namespace Traffic

variable {settings : Settings} {t : Traffic} {j k : Ticket}

theorem get?_conclude_ne {i : Nat} {request : Request} {visit : Visit}
    {outcome : Outcome request.Answer} {tape : Tape} (h : j ≠ visit.ticket) :
    (t.conclude i request visit outcome tape).server.registry.get? j = t.server.registry.get? j := by
  simp only [conclude, Server.report, Registry.store, Registry.get?_update]
  rw [if_neg (Ne.symm h)]

theorem get?_enter_ne {i : Nat} {c : Call} (hi : t.calls[i]? = some c)
    (hk : c.stand.ticket? = some k) (h : j ≠ k) :
    (t.enter settings i).server.registry.get? j = t.server.registry.get? j := by
  rcases t.enter_cases settings i with hs | ⟨_, _, _, _, _, hadm, -, -, -, hs⟩ |
    ⟨_, _, _, _, _, hadm, -, -, -, hs⟩ <;> rw [hs]
  cases hi.symm.trans hadm
  cases hk
  exact get?_conclude_ne h

theorem get?_hear_ne {i : Nat} {c : Call} {authority : Authority} (hi : t.calls[i]? = some c)
    (hk : c.stand.ticket? = some k) (h : j ≠ k) :
    (t.hear settings i authority).server.registry.get? j = t.server.registry.get? j := by
  rcases t.hear_cases settings i authority with hs | ⟨_, visit, _, _, hask, -, hs⟩ <;> rw [hs]
  cases hi.symm.trans hask
  cases hk
  exact get?_conclude_ne (by rwa [ticket_heard])

end Traffic

namespace Crowd

variable {settings : Settings} {c : Crowd}

/-- The session for which the request or call came that takes a step. -/
def Action.ticket? (c : Crowd) : Action → Option Ticket
  | judge i | remove i | accept i => c.visitors[i]?.bind (·.search.ticket?)
  | enter i | hear i _ | leave i => c.traffic.calls[i]?.bind (·.stand.ticket?)
  | pass _ | openSession | purge | look _ => none

/-- A removal takes one entry off the table. -/
theorem get?_remove_ne {registry : Registry} {id : SessionId} {j k : Ticket} (h : j ≠ k) :
    (registry.remove id k).get? j = registry.get? j := by
  unfold Registry.remove
  split
  · rw [Registry.unlist, Registry.get?_update, if_neg (Ne.symm h)]
  · rfl

/-- Whoever came for one session changes no other entry. -/
theorem get?_step_ne {action : Action} {j k : Ticket} (hk : action.ticket? c = some k) (h : j ≠ k) :
    (c.step settings action).registry.get? j = c.registry.get? j := by
  cases action with
  | pass | openSession | purge | look => cases hk
  | judge i =>
    simp only [step, judge]
    split <;> rfl
  | remove i =>
    simp only [step, remove]
    split
    · rename_i request k' hi
      simp only [Action.ticket?, hi] at hk
      cases hk
      exact get?_remove_ne h
    · rfl
  | accept i =>
    simp only [step, accept]
    split
    · rename_i request k' hi
      simp only [Action.ticket?, hi] at hk
      cases hk
      simp only [registry, server, become, Registry.touch, Registry.get?_update]
      rw [if_neg (Ne.symm h)]
    · rfl
  | enter i =>
    obtain ⟨call, hi, hk'⟩ := Option.bind_eq_some_iff.mp hk
    exact Traffic.get?_enter_ne hi hk' h
  | hear i authority =>
    obtain ⟨call, hi, hk'⟩ := Option.bind_eq_some_iff.mp hk
    exact Traffic.get?_hear_ne hi hk' h
  | leave i =>
    simp only [step, leave]
    split
    · rename_i request visit result hi
      simp only [Action.ticket?, hi] at hk
      cases hk
      exact get?_remove_ne h
    · rfl

/-- Whoever came for one session leaves the ids of all others to them. -/
theorem Intact.find?_step_ne (hc : c.Intact settings) {action : Action} {j k : Ticket}
    {id : SessionId} (hk : action.ticket? c = some k) (h : j ≠ k)
    (hf : c.registry.find? id = some j) : (c.step settings action).registry.find? id = some j := by
  obtain ⟨e, he, hl, hid⟩ := Registry.lists_of_find? hf
  refine (Registry.find?_eq_some_iff (hc.step action).orderly.unambiguous).mpr ⟨e, ?_, hl, hid⟩
  exact (get?_step_ne hk h).trans he

/-! ## Idle sessions -/

/-- A request found its session idle for too long in a run. -/
def FoundIdle (settings : Settings) (c : Crowd) (actions : List Action) (i : Nat)
    (k : Ticket) : Prop :=
  ∃ before after request, actions = before ++ .judge i :: after ∧
    (c.run settings before).visitors[i]? = some ⟨request, .found k⟩ ∧
    (c.run settings before).registry.Expired settings (c.run settings before).server.now k

/-- Whoever holds on to an entry as idle did so before a step, or judges it so in the step. -/
theorem idle_step {action : Action} {i : Nat} {request : Request} {k : Ticket}
    (h : (c.step settings action).visitors[i]? = some ⟨request, .idle k⟩) :
    c.visitors[i]? = some ⟨request, .idle k⟩ ∨
    action = .judge i ∧ c.visitors[i]? = some ⟨request, .found k⟩ ∧
      c.registry.Expired settings c.server.now k := by
  cases action with
  | pass | openSession | purge | enter | hear => exact Or.inl h
  | look other =>
    simp only [step, look] at h
    split at h
    · exact Or.inl h
    · rcases Traffic.append_cases h with h | h
      · exact Or.inl h
      · cases h
  | judge n =>
    simp only [step, judge] at h
    split at h
    · rename_i other j hn
      rcases Traffic.set_cases h with ⟨rfl, hv⟩ | ⟨-, h⟩
      · refine Or.inr ⟨rfl, ?_⟩
        split at hv
        · rename_i hidle
          cases hv
          refine ⟨hn, ?_⟩
          unfold isIdle at hidle
          split at hidle
          · rename_i e he
            exact ⟨e, he, hidle⟩
          · cases hidle
        · cases hv
      · exact Or.inl h
    · exact Or.inl h
  | remove n =>
    simp only [step, remove] at h
    split at h
    · rcases Traffic.set_cases h with ⟨-, hv⟩ | ⟨-, h⟩
      · cases hv
      · exact Or.inl h
    · exact Or.inl h
  | accept n =>
    simp only [step, accept] at h
    split at h
    · rcases Traffic.set_cases h with ⟨-, hv⟩ | ⟨-, h⟩
      · cases hv
      · exact Or.inl h
    · exact Or.inl h
  | leave n =>
    simp only [step, leave] at h
    split at h <;> exact Or.inl h

/-- Whoever holds on to an entry as idle after a run did so before, or found it idle in the run. -/
theorem idle_run {actions : List Action} {i : Nat} {request : Request} {k : Ticket}
    (h : (c.run settings actions).visitors[i]? = some ⟨request, .idle k⟩) :
    c.visitors[i]? = some ⟨request, .idle k⟩ ∨ c.FoundIdle settings actions i k := by
  induction actions generalizing c with
  | nil => exact Or.inl h
  | cons action actions ih =>
    rcases ih (c := c.step settings action) h with h | ⟨before, after, other, rfl, hv, hx⟩
    · rcases idle_step h with h | ⟨rfl, hv, hx⟩
      · exact Or.inl h
      · exact Or.inr ⟨[], actions, request, rfl, hv, hx⟩
    · exact Or.inr ⟨action :: before, after, other, rfl, hv, hx⟩

/-! ## Removal -/

/-- Why a step behind a run removes a session from the table. -/
inductive Removed (settings : Settings) (tape : Tape) (actions : List Action) (action : Action)
    (k : Ticket) (id : SessionId) : Prop
  /-- The session is over, and a call to it leaves. -/
  | ended (i : Nat) (request : Request) (v : Visit) (r : Except Error request.Answer) (s : Session)
    (ha : action = .leave i)
    (hi : ((start tape).run settings actions).traffic.calls[i]? = some ⟨request, .leaving v r⟩)
    (hk : v.ticket = k) (hs : ((start tape).run settings actions).traffic.sessions[k]? = some s)
    (hover : s.isTerminal = true)
  /-- A request for the session found it idle for too long and removes it. -/
  | foundIdle (i : Nat) (ha : action = .remove i)
    (hx : (start tape).FoundIdle settings actions i k)
  /-- The session is idle for too long, and sessions are purged or have to make room. -/
  | idle (ha : action = .purge ∨ action = .openSession)
    (hx : ((start tape).run settings actions).registry.Expired settings
      ((start tape).run settings actions).server.now k)
  /-- A session is opened while the table is full, and this one is chosen to make room. -/
  | evicted (cap : Nat) (ha : action = .openSession) (hcap : settings.maxSessions = some cap)
    (hfull : cap ≤ ((start tape).run settings actions).registry.size)
    (he : Event.evicted id ∈ (((start tape).run settings actions).registry.makeRoom settings
      ((start tape).run settings actions).server.now).2)

/-- A session that a step removes from the table is removed for a reason of its own. -/
theorem removed_of_not_lists {tape : Tape} {actions : List Action} {action : Action} {k : Ticket}
    {id : SessionId} (hl : ((start tape).run settings actions).registry.Lists k id)
    (hn : ¬ (((start tape).run settings actions).step settings action).registry.Lists k id) :
    Removed settings tape actions action k id := by
  have h := intact_run settings tape actions
  generalize hc : (start tape).run settings actions = c at h hl hn
  have huna : c.registry.Unambiguous := h.orderly.unambiguous
  cases action with
  | pass ms => exact absurd hl hn
  | openSession =>
    rcases c.traffic.server.openSession_registry settings with hr | ⟨new, hfresh, hr⟩
    · exact absurd hl (by simpa [step, registry, server, Traffic.step, hr] using hn)
    · -- the new entry hides none, so the session was removed to make room for it
      have hroom : ¬ (c.registry.makeRoom settings c.server.now).1.Lists k id := by
        intro hroom
        refine hn ?_
        simp only [step, registry, server, Traffic.step, hr]
        exact Registry.lists_add.mpr (Or.inl hroom)
      rw [Registry.lists_makeRoom_iff huna c.server.now] at hroom
      by_cases hx : c.registry.Expired settings c.server.now k
      · exact .idle (Or.inr rfl) (hc ▸ hx)
      · have he : Event.evicted id ∈ (c.registry.makeRoom settings c.server.now).2 := by
          by_contra he
          exact hroom ⟨hl, fun h => hx h.2, he⟩
        obtain ⟨cap, hcap, hfull⟩ := Registry.full_of_evicted he
        exact .evicted cap rfl hcap (hc ▸ hfull) (hc ▸ he)
  | purge =>
    refine .idle (Or.inl rfl) ?_
    rw [hc]
    by_contra hx
    exact hn ((Registry.lists_dropExpired c.server.now).mpr ⟨hl, hx⟩)
  | look request =>
    refine absurd hl ?_
    simp only [step, look] at hn
    split at hn <;> exact hn
  | judge i =>
    refine absurd hl ?_
    simp only [step, judge] at hn
    split at hn <;> exact hn
  | remove i =>
    simp only [step, remove] at hn
    split at hn
    · rename_i request j hi
      have hkj : k = j := by
        by_contra hne
        obtain ⟨e, he, hle, hid⟩ := hl
        exact hn ⟨e, (get?_remove_ne hne).trans he, hle, hid⟩
      subst hkj
      -- the visitor may have found it idle long ago, so the run before has to be searched
      refine .foundIdle i rfl ?_
      rcases idle_run (c := start tape) (hc ▸ hi) with hi | hx
      · simp [start] at hi
      · exact hx
    · exact absurd hl hn
  | accept i =>
    refine absurd hl ?_
    simp only [step, accept] at hn
    split at hn
    · simpa [registry, server, become] using hn
    · exact hn
  | enter i => exact absurd ((Traffic.lists_enter i).mpr hl) hn
  | hear i authority => exact absurd ((Traffic.lists_hear i authority).mpr hl) hn
  | leave i =>
    rw [step, h.leave_eq] at hn
    have hrem : c.traffic.Removes k (.leave i) := by
      by_contra hrem
      exact hn ((Traffic.lists_leave_iff i).mpr ⟨hl, hrem⟩)
    obtain ⟨request, v, r, hi, rfl⟩ := hrem
    obtain ⟨s, hs, hover⟩ := h.coherent.leaving i request v r hi
    exact .ended i request v r s rfl (hc ▸ hi) rfl (hc ▸ hs) hover

/-! ## Every run -/

/-- What holds of identities at a point of a run. -/
structure KeepsApart (settings : Settings) (tape : Tape) (actions : List Action) : Prop where
  /-- Whoever came for one session changes no other entry: neither the session, nor when it was
  active, nor whether it is listed. -/
  others : ∀ (action : Action) (j k : Ticket),
    action.ticket? ((start tape).run settings actions) = some k → j ≠ k →
    (((start tape).run settings actions).step settings action).registry.get? j =
      ((start tape).run settings actions).registry.get? j
  /-- An id goes on to address the session to which it was given, even if whoever takes a step came
  for another session with this id. -/
  addressed : ∀ (action : Action) (j k : Ticket) (id : SessionId),
    action.ticket? ((start tape).run settings actions) = some k → j ≠ k →
    ((start tape).run settings actions).registry.find? id = some j →
    (((start tape).run settings actions).step settings action).registry.find? id = some j
  /-- A session is removed for a reason of its own. -/
  removed : ∀ (action : Action) (k : Ticket) (id : SessionId),
    ((start tape).run settings actions).registry.Lists k id →
    ¬ (((start tape).run settings actions).step settings action).registry.Lists k id →
    Removed settings tape actions action k id

/-- At every point of every run, whoever came for a session that was removed leaves alone the session
to which its id was given since. -/
theorem sessions_kept_apart (settings : Settings) (tape : Tape) (actions : List Action) :
    KeepsApart settings tape actions where
  others := fun _ _ _ hk h => get?_step_ne hk h
  addressed := fun _ _ _ _ hk h hf => (intact_run settings tape actions).find?_step_ne hk h hf
  removed := fun _ _ _ hl hn => removed_of_not_lists hl hn

/-- A message 1 with a bad key ends its session after a purge removed it and its id was given to a new
session, which stays as it was opened. -/
example :
    let settings := (Settings.make (Block.zero 16) .one []).withSessionTimeout (some 10)
    let tape : Tape := ⟨List.replicate 32 0 ++ 1 :: List.replicate 39 0 ++ 1 :: List.replicate 7 0⟩
    ((start tape).run settings [.openSession, .look (.msg1 .offCurve), .judge 0, .accept 0, .pass 11,
      .purge, .openSession, .enter 0, .leave 0]).registry =
        ⟨[⟨⟨1, .failed⟩, 11, false⟩, ⟨.start 1, 11, true⟩]⟩ := by
  decide +kernel

/-! ## Traffic -/

theorem run_append (c : Crowd) (before after : List Action) :
    c.run settings (before ++ after) = (c.run settings before).run settings after :=
  List.foldl_append ..

/-- A request that arrives in traffic looks its id up, judges, and is admitted or refused, while
nobody else takes a step. -/
theorem arrive_run (settings : Settings) (c : Crowd) (request : Request) :
    ∃ actions, (c.run settings actions).traffic = c.traffic.arrive settings request := by
  cases hf : c.registry.find? request.sessionId with
  | none =>
    refine ⟨[.look request], ?_⟩
    have hf' : c.traffic.server.registry.find? request.sessionId = none := hf
    simp [run, step, look, hf, Traffic.arrive, Server.route, hf', become, server]
  | some k =>
    have hf' : c.traffic.server.registry.find? request.sessionId = some k := hf
    obtain ⟨e, he, -⟩ := Registry.lists_of_find? hf'
    let found : Crowd := { c with visitors := c.visitors ++ [⟨request, .found k⟩] }
    have hlook : c.step settings (.look request) = found := by simp [step, look, hf, found]
    have hidle : found.isIdle settings k = e.isExpired settings.sessionTimeout c.server.now := by
      have he' : found.registry.get? k = some e := he
      simp only [isIdle, he']
      rfl
    have hcontains : c.traffic.server.contains settings request.sessionId =
        !e.isExpired settings.sessionTimeout c.server.now := by
      simp only [Server.contains, Registry.contains, hf', Option.bind_some, he]
      rfl
    have hjudge : ∀ search : Search,
        (if found.isIdle settings k then .idle k else .awake k) = search →
        found.step settings (.judge c.visitors.length) =
          { c with visitors := c.visitors ++ [⟨request, search⟩] } := by
      rintro _ rfl
      simp [step, judge, found]
    cases hx : e.isExpired settings.sessionTimeout c.server.now with
    | true =>
      refine ⟨[.look request, .judge c.visitors.length, .remove c.visitors.length], ?_⟩
      have hremove : c.traffic.server.registry.remove request.sessionId k =
          c.traffic.server.registry.unlist k := by
        rw [Registry.remove, if_pos hf']
      simp only [run, List.foldl_cons, List.foldl_nil, hlook]
      rw [hjudge (.idle k) (by simp [hidle, hx])]
      rw [hx] at hcontains
      simp [step, remove, become, Traffic.arrive, Server.route, hf', hcontains, hremove, registry,
        server, Server.report]
    | false =>
      refine ⟨[.look request, .judge c.visitors.length, .accept c.visitors.length], ?_⟩
      simp only [run, List.foldl_cons, List.foldl_nil, hlook]
      rw [hjudge (.awake k) (by simp [hidle, hx])]
      rw [hx] at hcontains
      simp [step, accept, become, Traffic.arrive, Server.route, hf', hcontains, registry, server]

/-- Every run of traffic is one of a crowd. -/
theorem traffic_run (settings : Settings) (tape : Tape) (actions : List Traffic.Action) :
    ∃ steps,
      ((start tape).run settings steps).traffic = (Traffic.start tape).run settings actions := by
  have go : ∀ (actions : List Traffic.Action) (c : Crowd), c.Intact settings →
      ∃ steps, (c.run settings steps).traffic = c.traffic.run settings actions := by
    intro actions
    induction actions with
    | nil => exact fun c _ => ⟨[], rfl⟩
    | cons action actions ih =>
      intro c h
      -- one step of traffic
      obtain ⟨first, hfirst⟩ : ∃ steps,
          (c.run settings steps).traffic = c.traffic.step settings action := by
        cases action with
        | pass ms => exact ⟨[.pass ms], rfl⟩
        | openSession => exact ⟨[.openSession], rfl⟩
        | purge => exact ⟨[.purge], rfl⟩
        | arrive request => exact arrive_run settings c request
        | enter i => exact ⟨[.enter i], rfl⟩
        | hear i authority => exact ⟨[.hear i authority], rfl⟩
        | leave i => exact ⟨[.leave i], congrArg Crowd.traffic (h.leave_eq i)⟩
      obtain ⟨rest, hrest⟩ := ih _ (h.run first)
      exact ⟨first ++ rest, by rw [run_append, hrest, hfirst, Traffic.run_cons]⟩
  exact go actions (start tape) (.start settings tape)

end Crowd

end EnclaveGate
