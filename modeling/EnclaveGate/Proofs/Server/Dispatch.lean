import EnclaveGate.Proofs.Server.Effects
import EnclaveGate.Proofs.Session.Failures

/-!
# The registry and the history

The history of a server accounts for what its registry holds. Of all sessions that were opened under
an id only the latest one can be listed. It was last active when the history says so; while it is
listed, nothing in the history has ended or evicted it, and once it is not, something has, or it was
idle for too long. So whether a message for the id can reach a session is decided by the history
alone, and an id that no message can reach stays so until a session is opened under it.
-/

namespace EnclaveGate

namespace Server

variable {settings : Settings} {s s' : Server} {id : SessionId} {k : Ticket} {opening : Nat}
  {later history happened : List Happening}

/-! ## What the registry keeps -/

/-- The registry keeps a session that was opened under an id at a time as later events tell. -/
structure Follows (settings : Settings) (s : Server) (id : SessionId) (opening : Nat)
    (later : List Happening) (k : Ticket) : Prop where
  /-- The session has the id and was last active when the events say so. -/
  entry : ∃ e, s.registry.get? k = some e ∧ e.session.id = id ∧
    e.lastActive = Happening.lastActivity id opening later
  /-- No other session is listed under the id. -/
  only : ∀ j, s.registry.Lists j id → j = k
  /-- While the session is listed, nothing has removed it. -/
  listed : s.registry.Lists k id → ∀ happening ∈ later,
    happening.ends id = false ∧ happening.evicts id = false
  /-- Once the session is not listed, something has removed it, or it was idle for too long. -/
  removed : ¬ s.registry.Lists k id →
    (∃ happening ∈ later, happening.ends id = true) ∨
    (∃ happening ∈ later, happening.evicts id = true) ∨
    Happening.Idle id settings s.now opening later

/-- A history accounts for the sessions with an id. -/
def Accounts (settings : Settings) (s : Server) (id : SessionId) (history : List Happening) : Prop :=
  match Happening.since? id history with
  | none => ∀ k, ¬ s.registry.Lists k id
  | some (opening, later) => ∃ k, s.Follows settings id opening later k

/-- The session was idle for too long if the events say so. -/
theorem Follows.expired_iff (h : s.Follows settings id opening later k) :
    s.registry.Expired settings s.now k ↔ Happening.Idle id settings s.now opening later := by
  obtain ⟨e, he, -, ha⟩ := h.entry
  unfold Registry.Expired Happening.Idle
  simp [he, Entry.isExpired_iff, ha]

/-- Where the history accounts for the sessions with an id, it decides whether a message for the id
can reach one. -/
theorem Accounts.contains_iff (h : s.Accounts settings id history) (ho : s.Orderly settings) :
    s.contains settings id = true ↔ ¬ Happening.Gone id settings s.now history := by
  rw [contains, Registry.contains_iff ho.unambiguous]
  unfold Accounts at h
  cases hs : Happening.since? id history with
  | none =>
    rw [hs] at h
    constructor
    · rintro ⟨k, hk, -⟩
      exact absurd hk (h k)
    · intro hn
      refine absurd (fun opening later hl => ?_) hn
      rw [hs] at hl
      cases hl
  | some found =>
    obtain ⟨opening, later⟩ := found
    rw [hs] at h
    obtain ⟨k, hf⟩ := h
    constructor
    · rintro ⟨j, hj, hx⟩ hgone
      have hjk := hf.only j hj
      subst hjk
      rcases hgone opening later hs with ⟨x, hx', he⟩ | ⟨x, hx', he⟩ | hidle
      · rw [(hf.listed hj x hx').1] at he
        cases he
      · rw [(hf.listed hj x hx').2] at he
        cases he
      · exact hx (hf.expired_iff.mpr hidle)
    · intro hn
      refine Classical.byContradiction fun hnone => hn fun o l hl => ?_
      rw [hs] at hl
      cases hl
      -- the session that is followed is the only one with the id: it is idle, or it was removed
      by_cases hk : s.registry.Lists k id
      · exact Or.inr (Or.inr (hf.expired_iff.mp (Classical.byContradiction fun hx =>
          hnone ⟨k, hk, hx⟩)))
      · exact hf.removed hk

/-! ## Turns -/

/-- A session that no message reaches is followed further. -/
theorem Follows.step (h : s.Follows settings id opening later k) (hn : s.now ≤ s'.now)
    (entry : ∀ e, s.registry.get? k = some e → ∃ e', s'.registry.get? k = some e' ∧
      e'.session.id = e.session.id ∧ e'.lastActive = e.lastActive)
    (lists : ∀ j, s'.registry.Lists j id → s.registry.Lists j id)
    (still : ∀ happening ∈ happened, happening.service? id = none)
    (listed : s'.registry.Lists k id → ∀ happening ∈ happened,
      happening.ends id = false ∧ happening.evicts id = false)
    (removed : s.registry.Lists k id → s'.registry.Lists k id ∨
      s.registry.Expired settings s.now k ∨ ∃ happening ∈ happened, happening.evicts id = true) :
    s'.Follows settings id opening (later ++ happened) k := by
  have same := Happening.lastActivity_append id opening later still
  have idle : Happening.Idle id settings s.now opening later →
      Happening.Idle id settings s'.now opening (later ++ happened) := by
    rintro ⟨ms, hms, hlt⟩
    exact ⟨ms, hms, by rw [same]; omega⟩
  constructor
  case entry =>
    obtain ⟨e, he, hid, ha⟩ := h.entry
    obtain ⟨e', he', hid', ha'⟩ := entry e he
    exact ⟨e', he', hid'.trans hid, by rw [same, ha', ha]⟩
  case only => exact fun j hj => h.only j (lists j hj)
  case listed =>
    intro hk x hx
    rcases List.mem_append.mp hx with hx | hx
    · exact h.listed (lists k hk) x hx
    · exact listed hk x hx
  case removed =>
    intro hk
    by_cases hk₀ : s.registry.Lists k id
    · rcases removed hk₀ with hk' | hx | ⟨x, hx, he⟩
      · exact absurd hk' hk
      · exact Or.inr (Or.inr (idle (h.expired_iff.mp hx)))
      · exact Or.inr (Or.inl ⟨x, List.mem_append_right _ hx, he⟩)
    · rcases h.removed hk₀ with ⟨x, hx, he⟩ | ⟨x, hx, he⟩ | hidle
      · exact Or.inl ⟨x, List.mem_append_left _ hx, he⟩
      · exact Or.inr (Or.inl ⟨x, List.mem_append_left _ hx, he⟩)
      · exact Or.inr (Or.inr (idle hidle))

/-- A message that reaches the session is its last activity, and ends it if it is over. -/
theorem Follows.visit (h : s.Follows settings id opening later k) (ho : s.Orderly settings)
    {session : Session} (hk : s.registry.Lists k id) (hid : session.id = id) (hn : s.now ≤ s'.now)
    (hr : s'.registry = s.registry.visit k session s'.now) :
    s'.Follows settings id opening (later ++ [.served s'.now id session.phase]) k := by
  obtain ⟨e, he, hide, ha⟩ := h.entry
  have hlists : ∀ j, s'.registry.Lists j id ↔
      s.registry.Lists j id ∧ ¬ (j = k ∧ session.isTerminal = true) := by
    intro j
    rw [hr]
    exact Registry.lists_visit_iff (hk.id_eq hid) s'.now
  constructor
  case entry =>
    refine ⟨_, hr ▸ Registry.get?_visit he session s'.now, hid, ?_⟩
    have hlast : (Happening.served s'.now id session.phase).service? id = some s'.now := by
      simp [Happening.service?]
    rw [Happening.lastActivity_concat id opening later hlast, ← ha]
    have := ho.past k e he
    show s'.now = max e.lastActive s'.now
    omega
  case only => exact fun j hj => h.only j ((hlists j).mp hj).1
  case listed =>
    intro hk' x hx
    obtain ⟨-, hopen⟩ := (hlists k).mp hk'
    rcases List.mem_append.mp hx with hx | hx
    · exact h.listed hk x hx
    · rw [List.mem_singleton] at hx
      subst hx
      simp only [true_and, Bool.not_eq_true] at hopen
      exact ⟨by simpa [Happening.ends, Session.isTerminal] using hopen, rfl⟩
  case removed =>
    intro hk'
    refine Or.inl ⟨_, List.mem_append_right _ (List.mem_singleton.mpr rfl), ?_⟩
    rw [hlists] at hk'
    have hover : session.isTerminal = true :=
      Classical.byContradiction fun hopen => hk' ⟨hk, fun h => hopen h.2⟩
    simpa [Happening.ends, Session.isTerminal] using hover

/-- A session that is opened under an id that was not in use is the one that is followed. -/
theorem follows_opened {evicted : List SessionId} {room : Registry}
    (fresh : s.registry.hasId id = false) (hp : s.registry.Prunes settings s.now evicted room)
    (hr : s'.registry = room.add (.start id) s'.now) :
    s'.Follows settings id s'.now [] room.entries.length := by
  have hfresh : ∀ k, ¬ room.Lists k id :=
    fun k hk => Registry.not_lists_of_hasId fresh k (hp.lists hk)
  have hlists : ∀ k, s'.registry.Lists k id ↔ k = room.entries.length := by
    intro k
    rw [hr, Registry.lists_add]
    simp [hfresh k, Session.start]
  constructor
  case entry => exact ⟨⟨.start id, s'.now, true⟩, by simp [hr, Registry.add, Registry.get?], rfl, rfl⟩
  case only => exact fun k hk => (hlists k).mp hk
  case listed => exact fun _ _ hx => by cases hx
  case removed => exact fun hk => absurd ((hlists _).mpr rfl) hk

/-- A session is followed further when another one is opened, whether it had to make room or not. -/
theorem Follows.opened (h : s.Follows settings id opening later k) {new : SessionId}
    {evicted : List SessionId} {room : Registry} (hnew : new ≠ id) (hn : s'.now = s.now)
    (hp : s.registry.Prunes settings s.now evicted room)
    (hr : s'.registry = room.add (.start new) s'.now) :
    s'.Follows settings id opening (later ++ [.opened s'.now new evicted]) k := by
  have hlists : ∀ j, s'.registry.Lists j id ↔ room.Lists j id := by
    intro j
    rw [hr, Registry.lists_add]
    simp [Session.start, hnew]
  refine h.step (Nat.le_of_eq hn.symm) (fun e hk => ?_) (fun j hj => hp.lists ((hlists j).mp hj))
    (by simp [Happening.service?]) (fun hk => ?_) fun hk => ?_
  · obtain ⟨e', he', hkept⟩ := hp.kept hk
    exact ⟨e', hr ▸ Registry.get?_add_left he' _ _, hkept⟩
  · have := hp.gone k id ((hlists k).mp hk)
    simpa [Happening.ends, Happening.evicts] using this
  · rcases hp.left k id hk with hk | hx | hm
    · exact Or.inl ((hlists k).mpr hk)
    · exact Or.inr (Or.inl hx)
    · exact Or.inr (Or.inr (by simpa [Happening.evicts] using hm))

/-- A session is followed further when a message reaches it or another one. -/
theorem Follows.served (h : s.Follows settings id opening later k) (ho : s.Orderly settings)
    {j : Ticket} {other : SessionId} {session : Session} (hj : s.registry.Lists j other)
    (hid : session.id = other) (hn : s.now ≤ s'.now)
    (hr : s'.registry = s.registry.visit j session s'.now) :
    s'.Follows settings id opening (later ++ [.served s'.now other session.phase]) k := by
  by_cases hother : other = id
  · subst hother
    have hjk := h.only j hj
    subst hjk
    exact h.visit ho hj hid hn hr
  · -- a session with another id has another ticket
    have hne : j ≠ k := by
      rintro rfl
      obtain ⟨e, he, hide, -⟩ := h.entry
      obtain ⟨e', he', -, hid'⟩ := hj
      rw [he] at he'
      cases he'
      exact hother (hid'.symm.trans hide)
    have hlists : ∀ i, s'.registry.Lists i id ↔
        s.registry.Lists i id ∧ ¬ (i = j ∧ session.isTerminal = true) := by
      intro i
      rw [hr]
      exact Registry.lists_visit_iff (hj.id_eq hid) s'.now
    refine h.step hn (fun e he => ⟨e, ?_, rfl, rfl⟩) (fun i hi => ((hlists i).mp hi).1)
      (by simp [Happening.service?, hother])
      (fun _ => by simp [Happening.ends, Happening.evicts, hother])
      fun hk => Or.inl ((hlists k).mpr ⟨hk, fun h => hne h.1.symm⟩)
    rw [hr, Registry.get?_visit_ne hne]
    exact he

/-- A longer history accounts for the sessions with an id as long as none is opened under it. -/
theorem Accounts.append (h : s.Accounts settings id history)
    (hopen : ∀ happening ∈ happened, happening.opening? id = none)
    (lists : ∀ k, s'.registry.Lists k id → s.registry.Lists k id)
    (follows : ∀ opening later k, s.Follows settings id opening later k →
      s'.Follows settings id opening (later ++ happened) k) :
    s'.Accounts settings id (history ++ happened) := by
  unfold Accounts at h ⊢
  rw [Happening.since?_append id history hopen]
  cases hs : Happening.since? id history with
  | none =>
    rw [hs] at h
    exact fun k hk => h k (lists k hk)
  | some found =>
    rw [hs] at h
    obtain ⟨k, hf⟩ := h
    exact ⟨k, follows _ _ k hf⟩

/-- Whatever a turn does, the history with it accounts for the sessions with an id. -/
theorem Accounts.step (h : s.Accounts settings id history) (ho : s.Orderly settings)
    (he : s.Effect settings s' happened) : s'.Accounts settings id (history ++ happened) := by
  cases he with
  | quiet hn hp =>
    refine h.append (by simp) (fun k => hp.lists) fun opening later k hf => ?_
    refine hf.step hn (fun e => hp.kept) (fun j => hp.lists) (by simp) (fun _ => by simp) fun hk => ?_
    rcases hp.left k id hk with hk | hx | hm
    · exact Or.inl hk
    · exact Or.inr (Or.inl hx)
    · cases hm
  | opened new evicted room fresh hn hp hr =>
    by_cases hnew : new = id
    · subst hnew
      have hlast : (Happening.opened s'.now new evicted).opening? new = some s'.now := by
        simp [Happening.opening?]
      unfold Accounts
      rw [Happening.since?_concat new history hlast]
      exact ⟨_, follows_opened fresh hp hr⟩
    · refine h.append (by simp [Happening.opening?, hnew]) (fun k hk => ?_)
        fun opening later k hf => hf.opened hnew hn hp hr
      rw [hr, Registry.lists_add] at hk
      exact hp.lists (hk.resolve_right fun h => hnew h.2)
  | served j other session hj hx hid hn hr =>
    refine h.append (by simp [Happening.opening?]) (fun k hk => ?_)
      fun opening later k hf => hf.served ho hj hid hn hr
    rw [hr, Registry.lists_visit_iff (hj.id_eq hid)] at hk
    exact hk.1

/-- The history of a server accounts for its sessions. -/
theorem Accounts.turns (h : s.Accounts settings id history) (ho : s.Orderly settings)
    (turns : List Turn) :
    (s.turns settings turns).Accounts settings id (history ++ s.history settings turns) := by
  induction turns generalizing s history with
  | nil =>
    rw [Server.history, List.append_nil]
    exact h
  | cons turn turns ih =>
    rw [Server.history, ← List.append_assoc]
    exact ih (h.step ho (turn_effect ho turn)) (ho.turn turn)

/-- Whether a message for an id can reach a session is decided by the history. -/
theorem contains_turns_iff (settings : Settings) (tape : Tape) (turns : List Turn)
    (id : SessionId) :
    ((start tape).turns settings turns).contains settings id = true ↔
      ¬ Happening.Gone id settings ((start tape).turns settings turns).now
        ((start tape).history settings turns) := by
  have ho : (start tape).Orderly settings := .start settings tape
  have ha : (start tape).Accounts settings id [] := by
    rintro k ⟨e, he, -⟩
    simp [start, Registry.empty, Registry.get?] at he
  exact (ha.turns ho turns).contains_iff (ho.turns turns)

/-! ## Sessions that are gone -/

/-- A turn brings no session back: what can be reached afterwards could be reached before, unless a
session is opened. -/
theorem Effect.contains (he : s.Effect settings s' happened) (hu : s.registry.Unambiguous)
    (hu' : s'.registry.Unambiguous)
    (hopen : ∀ happening ∈ happened, happening.opening? id = none)
    (h : s'.contains settings id = true) : s.contains settings id = true := by
  obtain ⟨k, hk, hx⟩ := (Registry.contains_iff hu' s'.now).mp h
  refine (Registry.contains_iff hu s.now).mpr ?_
  cases he with
  | quiet hn hp => exact ⟨k, hp.lists hk, fun h => hx (hp.expired hn h)⟩
  | opened new evicted room fresh hn hp hr =>
    have hne : ¬ new = id := by simpa [Happening.opening?] using hopen
    rw [hr, Registry.lists_add] at hk
    rcases hk with hk | ⟨-, hk⟩
    · refine ⟨k, hp.lists hk, fun h => hx ?_⟩
      refine (hp.expired (Nat.le_refl _) h).later (Nat.le_of_eq hn.symm) fun e he => ⟨e, ?_, rfl⟩
      exact hr ▸ Registry.get?_add_left he _ _
    · exact absurd hk hne
  | served j other session hj hxj hid hn hr =>
    rw [hr, Registry.lists_visit_iff (hj.id_eq hid)] at hk
    refine ⟨k, hk.1, fun h => ?_⟩
    by_cases hjk : j = k
    · exact hxj (hjk ▸ h)
    · refine hx (h.later hn fun e he => ⟨e, ?_, rfl⟩)
      rw [hr, Registry.get?_visit_ne hjk]
      exact he

/-- An id that no message can reach stays so until a session is opened under it. -/
theorem contains_turns_eq_false (ho : s.Orderly settings) (turns : List Turn)
    (hopen : ∀ happening ∈ s.history settings turns, happening.opening? id = none)
    (h : s.contains settings id = false) : (s.turns settings turns).contains settings id = false := by
  induction turns generalizing s with
  | nil => exact h
  | cons turn turns ih =>
    have hturn := ho.turn turn
    refine ih hturn (fun x hx => hopen x (List.mem_append_right _ hx)) ?_
    rw [← Bool.not_eq_true] at h ⊢
    exact fun hc => h ((turn_effect ho turn).contains ho.unambiguous hturn.unambiguous
      (fun x hx => hopen x (List.mem_append_left _ hx)) hc)

/-! ## Answers -/

variable {authority : Authority} {e : Entry} {request : Request}

/-- A message that reaches a session is not answered as if there were none. -/
theorem serve_finds (h : authority.IsUnaware) (hk : s.registry.get? k = some e) :
    FindsSession (s.serve settings authority k request).1 := by
  unfold serve begin
  simp only [hk]
  rcases hb : e.session.begin settings s.tape request with ⟨outcome | pending, tape⟩
  · exact FindsSession.begin_result (congrArg Prod.fst hb)
  · have hk' : (({ s with tape } : Server).advance
        (request.wait settings authority pending)).registry.get? k = some e := hk
    simp only [finish, hk']
    exact FindsSession.finish_result h pending

/-- A message is admitted if its id is contained. -/
theorem admits_iff (ho : s.Orderly settings) :
    (∃ k, (s.route settings id).1 = .ok k) ↔ s.contains settings id = true := by
  rcases s.route_spec ho.unambiguous settings id with ⟨server, hr, hc, -⟩ | ⟨k, hr, hc, -⟩
  · simp [hr, hc]
  · simp [hr, hc]

/-- A message is answered as if there were no session exactly if its id is not contained. -/
theorem answer_iff (ho : s.Orderly settings) (h : authority.IsUnaware) :
    (s.handle settings authority request).1 = .error (.sessionNotFound request.sessionId) ↔
      s.contains settings request.sessionId = false := by
  unfold handle
  rcases s.route_spec ho.unambiguous settings request.sessionId with
    ⟨server, hr, hc, -⟩ | ⟨k, hr, hc, ⟨e, he, -⟩, -⟩
  · simp [hr, hc]
  · have he' := Registry.get?_touch he s.now
    simp only [hr, hc]
    constructor
    · intro hans
      exact absurd hans (serve_finds h he' _)
    · intro hc
      cases hc

end Server

end EnclaveGate
