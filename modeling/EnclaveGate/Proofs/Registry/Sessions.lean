import EnclaveGate.Server

/-!
# What the registry does to sessions

Admission, expiry and eviction change when a session was active and whether it can be addressed, but
never the session itself. Only opening adds a session, and only the end of a processing replaces one.
-/

namespace EnclaveGate

namespace Registry

variable (registry : Registry)

/-- Every session that was opened, by its ticket. -/
def sessions : List Session := registry.entries.map (·.session)

@[simp] theorem length_sessions : registry.sessions.length = registry.entries.length := by
  simp [sessions]

theorem sessions_getElem? (ticket : Ticket) :
    registry.sessions[ticket]? = (registry.get? ticket).map (·.session) := by
  simp [sessions, get?]

theorem sessions_update (ticket : Ticket) (f : Entry → Entry) (hf : ∀ e, (f e).session = e.session) :
    (registry.update ticket f).sessions = registry.sessions := by
  apply List.ext_getElem?
  intro t
  rw [sessions_getElem?, sessions_getElem?, get?_update]
  split
  · rw [Option.map_map]
    congr 1
    exact funext hf
  · rfl

@[simp] theorem sessions_touch (ticket : Ticket) (now : Nat) :
    (registry.touch ticket now).sessions = registry.sessions :=
  registry.sessions_update ticket _ fun _ => rfl

@[simp] theorem sessions_unlist (ticket : Ticket) :
    (registry.unlist ticket).sessions = registry.sessions :=
  registry.sessions_update ticket _ fun _ => rfl

@[simp] theorem sessions_add (session : Session) (now : Nat) :
    (registry.add session now).sessions = registry.sessions ++ [session] := by
  simp [sessions, add]

@[simp] theorem sessions_store (ticket : Ticket) (session : Session) (now : Nat) :
    (registry.store ticket session now).sessions = registry.sessions.set ticket session := by
  apply List.ext_getElem?
  intro t
  rw [sessions_getElem?, store, get?_update, List.getElem?_set, sessions_getElem?, length_sessions]
  by_cases ht : ticket = t
  · subst ht
    simp only [if_true]
    by_cases hl : ticket < registry.entries.length
    · simp [get?, hl]
    · simp [get?, hl]
  · simp [ht]

@[simp] theorem sessions_dropExpired (settings : Settings) (now : Nat) :
    (registry.dropExpired settings now).sessions = registry.sessions := by
  simp only [sessions, dropExpired, List.map_map]
  apply List.map_congr_left
  intro e _
  simp only [Function.comp_apply]
  split <;> rfl

@[simp] theorem sessions_evict (n : Nat) (registry : Registry) :
    (evict n registry).1.sessions = registry.sessions := by
  induction n generalizing registry with
  | zero => rfl
  | succ n ih =>
    simp only [evict]
    split
    · rfl
    · simp [ih]

@[simp] theorem sessions_makeRoom (settings : Settings) (now : Nat) :
    (registry.makeRoom settings now).1.sessions = registry.sessions := by
  simp only [makeRoom]
  split
  · rfl
  · split
    · rfl
    · simp

end Registry

namespace Server

variable (server : Server) (settings : Settings)

/-- Every session that was opened, by its ticket. -/
def sessions : List Session := server.registry.sessions

@[simp] theorem sessions_report (events : List Event) :
    (server.report events).sessions = server.sessions := rfl

@[simp] theorem sessions_advance (ms : Nat) : (server.advance ms).sessions = server.sessions := rfl

@[simp] theorem sessions_purge : (server.purge settings).2.sessions = server.sessions := by
  simp [Server.purge, sessions, report]

/-- Admission changes no session, and a ticket that it gives names one. -/
theorem route_cases (id : SessionId) :
    (server.route settings id).2.sessions = server.sessions ∧
    ∀ ticket, (server.route settings id).1 = .ok ticket →
      server.registry.find? id = some ticket ∧ server.contains settings id = true := by
  simp only [Server.route]
  split
  · exact ⟨rfl, fun ticket h => by simp at h⟩
  · rename_i k hk
    split
    · rename_i hc
      refine ⟨by simp [sessions], fun ticket h => ?_⟩
      simp only [Except.ok.injEq] at h
      exact ⟨by rw [hk, h], hc⟩
    · exact ⟨by simp [sessions, report], fun ticket h => by simp at h⟩

/-- An id that is drawn is neither zero nor in use. -/
theorem drawIdUpTo_cases (registry : Registry) (tries : Nat) (tape : Tape) :
    (drawIdUpTo registry tries tape).1 = .error .randomness ∨
    ∃ id, (drawIdUpTo registry tries tape).1 = .ok id ∧ id ≠ 0 ∧ registry.hasId id = false := by
  induction tries generalizing tape with
  | zero => exact Or.inl rfl
  | succ tries ih =>
    simp only [drawIdUpTo]
    split
    · exact Or.inl rfl
    · split
      · exact ih _
      · rename_i hn
        simp only [Bool.or_eq_true, decide_eq_true_eq, not_or, Bool.not_eq_true] at hn
        exact Or.inr ⟨_, rfl, hn⟩

/-- Opening fails for lack of random bytes, or adds a session under a fresh id. -/
theorem openSession_spec :
    (∃ tape, server.openSession settings = (.error .randomness, { server with tape })) ∨
    ∃ challenge tape, challenge.sessionId ≠ 0 ∧
      server.registry.hasId challenge.sessionId = false ∧
      server.openSession settings =
        (.ok challenge, { server with tape }.register settings challenge.sessionId) := by
  unfold Server.openSession
  split
  · exact Or.inl ⟨server.tape, rfl⟩
  · rename_i challenge tape _
    have hd := drawIdUpTo_cases server.registry (tape.size / 8) tape
    rw [drawId]
    split
    · rename_i e rest he
      rw [he] at hd
      rcases hd with hd | ⟨id, hd, -⟩
      · cases hd
        exact Or.inl ⟨rest, rfl⟩
      · cases hd
    · rename_i id rest he
      rw [he] at hd
      rcases hd with hd | ⟨id', hd, hne, hfresh⟩
      · cases hd
      · cases hd
        exact Or.inr ⟨⟨id, challenge⟩, rest, hne, hfresh, rfl⟩

/-- Opening fails and changes no session, or adds one that waits for message 1. -/
theorem openSession_cases :
    (∃ e, (server.openSession settings).1 = .error e ∧
      (server.openSession settings).2.sessions = server.sessions) ∨
    ∃ challenge, (server.openSession settings).1 = .ok challenge ∧
      (server.openSession settings).2.sessions =
        server.sessions ++ [Session.start challenge.sessionId] := by
  rcases server.openSession_spec settings with ⟨tape, h⟩ | ⟨challenge, tape, -, -, h⟩
  · exact Or.inl ⟨_, by rw [h], by rw [h]; rfl⟩
  · refine Or.inr ⟨challenge, by rw [h], ?_⟩
    rw [h]
    simp [Server.register, sessions]

end Server

end EnclaveGate
