import EnclaveGate.Proofs.Registry.Capacity
import EnclaveGate.Proofs.Session.Events

/-!
# A server in order

Whatever happens to a server, its registry and its journal change in one of a few ways. All of them
keep the server in order: every session has the id under which it was opened, which is not zero, no
two sessions are listed under one id, no activity lies in the future, and the table is not larger
than a positive cap.
-/

namespace EnclaveGate

/-- The id under which a session was opened. -/
def Event.created? : Event → Option SessionId
  | created id => some id
  | _ => none

theorem Event.created?_of_isByServer {event : Event} (h : event.isByServer = false) :
    event.created? = none := by
  cases event <;> simp_all [isByServer, created?]

/-- Making room reports evictions only. -/
theorem Registry.evicted_of_mem_makeRoom {registry : Registry} {settings : Settings} {now : Nat}
    {event : Event} (h : event ∈ (registry.makeRoom settings now).2) :
    ∃ id, event = .evicted id := by
  have evict : ∀ (n : Nat) (r : Registry), event ∈ (Registry.evict n r).2 →
      ∃ id, event = .evicted id := by
    intro n
    induction n with
    | zero => exact fun r h => by cases h
    | succ n ih =>
      intro r h
      simp only [Registry.evict] at h
      split at h
      · cases h
      · rcases List.mem_cons.mp h with rfl | h
        · exact ⟨_, rfl⟩
        · exact ih _ h
  simp only [makeRoom] at h
  split at h
  · cases h
  · split at h
    · cases h
    · exact evict _ _ h

/-- What may happen to the registry and to the journal of a server. -/
inductive Server.Change (settings : Settings) (s s' : Server) : Prop
  /-- Nothing happens. -/
  | still (hr : s'.registry = s.registry) (hj : s'.journal = s.journal)
  /-- A session is opened. -/
  | opened (id : SessionId) (nonzero : id ≠ 0) (fresh : s.registry.hasId id = false)
      (hr : s'.registry = (s.registry.makeRoom settings s.now).1.add (.start id) s.now)
      (hj : s'.journal = s.journal ++ (s.registry.makeRoom settings s.now).2 ++ [.created id])
  /-- Sessions that were idle for too long are removed. -/
  | purged (count : Nat) (hr : s'.registry = s.registry.dropExpired settings s.now)
      (hj : s'.journal = s.journal ++ if 0 < count then [.purged count] else [])
  /-- A message reaches a session. -/
  | touched (k : Ticket) (hr : s'.registry = s.registry.touch k s.now) (hj : s'.journal = s.journal)
  /-- A message finds its session idle for too long. -/
  | expired (k : Ticket) (id : SessionId) (hr : s'.registry = s.registry.unlist k)
      (hj : s'.journal = s.journal ++ [.expired id])
  /-- The processing of a message is over. -/
  | stored (k : Ticket) (entry : Entry) (session : Session) (events : List Event)
      (hk : s.registry.get? k = some entry) (hid : session.id = entry.session.id)
      (he : Event.AreBySession events) (hr : s'.registry = s.registry.store k session s.now)
      (hj : s'.journal = s.journal ++ events)
  /-- A session that is over is removed. -/
  | left (k : Ticket) (request : Request) (result : Except Error request.Answer)
      (hr : s'.registry = s.registry.unlist k)
      (hj : s'.journal = s.journal ++ request.closing result)

namespace Server

variable {settings : Settings} {s s' : Server}

/-! ## Operations -/

/-- Opening a session opens one or does nothing. -/
theorem openSession_change (settings : Settings) (s : Server) :
    s.Change settings (s.openSession settings).2 := by
  rcases s.openSession_spec settings with ⟨tape, h⟩ | ⟨challenge, tape, nonzero, fresh, h⟩
  · rw [h]
    exact .still rfl rfl
  · rw [h]
    exact .opened challenge.sessionId nonzero fresh rfl rfl

theorem purge_change (settings : Settings) (s : Server) : s.Change settings (s.purge settings).2 :=
  .purged _ rfl rfl

/-- Admission touches a session, removes one, or does nothing. -/
theorem route_change (settings : Settings) (s : Server) (id : SessionId) :
    s.Change settings (s.route settings id).2 := by
  unfold route
  split
  · exact .still rfl rfl
  · rename_i k _
    split
    · exact .touched k rfl rfl
    · exact .expired k id rfl rfl

/-! ## Ages -/

/-- No server opens a session at the end of another one. -/
theorem created?_closing (request : Request) (result : Except Error request.Answer) :
    (request.closing result).filterMap Event.created? = [] := by
  cases request with
  | msg1 m => rfl
  | msg3 m => cases result <;> rfl

/-- A change ages the registry and reports no opening, or opens a session. -/
theorem Change.ages_or_opened (h : s.Change settings s') :
    (s.registry.Ages s.now s'.registry ∧
      s'.journal.filterMap Event.created? = s.journal.filterMap Event.created?) ∨
    ∃ id, id ≠ 0 ∧ s.registry.hasId id = false ∧
      s'.registry = (s.registry.makeRoom settings s.now).1.add (.start id) s.now ∧
      s'.journal.filterMap Event.created? = s.journal.filterMap Event.created? ++ [id] := by
  cases h with
  | still hr hj => exact Or.inl ⟨hr ▸ .refl .., by rw [hj]⟩
  | opened id nonzero fresh hr hj =>
    refine Or.inr ⟨id, nonzero, fresh, hr, ?_⟩
    have quiet : (s.registry.makeRoom settings s.now).2.filterMap Event.created? = [] := by
      refine List.filterMap_eq_nil_iff.mpr fun event he => ?_
      obtain ⟨other, rfl⟩ := Registry.evicted_of_mem_makeRoom he
      rfl
    simp [hj, quiet, Event.created?]
  | purged count hr hj =>
    refine Or.inl ⟨hr ▸ .dropExpired .., ?_⟩
    rw [hj]
    split <;> simp [Event.created?]
  | touched k hr hj => exact Or.inl ⟨hr ▸ .touch .., by rw [hj]⟩
  | expired k id hr hj => exact Or.inl ⟨hr ▸ .unlist .., by simp [hj, Event.created?]⟩
  | stored k entry session events hk hid he hr hj =>
    refine Or.inl ⟨hr ▸ .store fun e hg => ?_, ?_⟩
    · rw [hk] at hg
      cases hg
      exact hid
    · have quiet : events.filterMap Event.created? = [] :=
        List.filterMap_eq_nil_iff.mpr fun event hm => Event.created?_of_isByServer (he event hm)
      simp [hj, quiet]
  | left k request result hr hj =>
    exact Or.inl ⟨hr ▸ .unlist .., by simp [hj, created?_closing]⟩

/-- Whatever happens, an entry stays and ages. -/
theorem Change.get?_left (h : s.Change settings s') {k : Ticket} {e : Entry}
    (hk : s.registry.get? k = some e) :
    ∃ e', s'.registry.get? k = some e' ∧ e.Ages s.now e' := by
  rcases h.ages_or_opened with ⟨hr, -⟩ | ⟨id, -, -, hr, -⟩
  · exact hr.get?_left hk
  · obtain ⟨e', he', ha⟩ := (Registry.Ages.makeRoom s.registry settings s.now s.now).get?_left hk
    exact ⟨e', hr ▸ Registry.get?_add_left he' _ _, ha⟩

/-- Whatever happens, no two sessions come to be listed under one id. -/
theorem Change.unambiguous (h : s.Change settings s') (hu : s.registry.Unambiguous) :
    s'.registry.Unambiguous := by
  rcases h.ages_or_opened with ⟨hr, -⟩ | ⟨id, -, fresh, hr, -⟩
  · exact hu.mono fun k id => hr.lists
  · have hroom := Registry.Ages.makeRoom s.registry settings s.now s.now
    rw [hr]
    refine (hu.mono fun k id => hroom.lists).add _ _ fun k hk => ?_
    exact Registry.not_lists_of_hasId fresh k (hroom.lists hk)

/-! ## Order -/

/-- A server in order. -/
structure Orderly (settings : Settings) (server : Server) : Prop where
  /-- No session has the id zero. -/
  nonzero : ∀ (k : Ticket) (e : Entry), server.registry.get? k = some e → e.session.id ≠ 0
  /-- Every session has the id under which it was opened. -/
  keyed : server.registry.entries.map (·.session.id) = server.journal.filterMap Event.created?
  /-- No two sessions are listed under one id. -/
  unambiguous : server.registry.Unambiguous
  /-- No activity lies in the future. -/
  past : ∀ (k : Ticket) (e : Entry), server.registry.get? k = some e → e.lastActive ≤ server.now
  /-- The table is not larger than a positive cap. -/
  capped : ∀ cap, settings.maxSessions = some cap → 1 ≤ cap → server.registry.size ≤ cap

theorem Orderly.start (settings : Settings) (tape : Tape) : (Server.start tape).Orderly settings where
  nonzero := by simp [Server.start, Registry.empty, Registry.get?]
  keyed := rfl
  unambiguous := by simp [Server.start, Registry.empty, Registry.Unambiguous, Registry.Lists,
    Registry.get?]
  past := by simp [Server.start, Registry.empty, Registry.get?]
  capped := fun cap _ _ => Nat.zero_le cap

/-- A server stays in order where its registry only ages. -/
theorem Orderly.ages (h : s.Orderly settings) (hr : s.registry.Ages s.now s'.registry)
    (hj : s'.journal.filterMap Event.created? = s.journal.filterMap Event.created?)
    (hn : s.now ≤ s'.now) : s'.Orderly settings where
  nonzero := by
    intro k e' hk
    obtain ⟨e, he, ha⟩ := hr.get?_right hk
    rw [ha.id_eq]
    exact h.nonzero k e he
  keyed := by rw [hr.ids_eq, h.keyed, hj]
  unambiguous := h.unambiguous.mono fun k id => hr.lists
  past := by
    intro k e' hk
    obtain ⟨e, he, ha⟩ := hr.get?_right hk
    exact Nat.le_trans (ha.lastActive_le (h.past k e he)) hn
  capped := fun cap hcap hpos => Nat.le_trans hr.size_le (h.capped cap hcap hpos)

/-- Every change keeps a server in order. -/
theorem Orderly.change (h : s.Orderly settings) (hc : s.Change settings s')
    (hn : s.now ≤ s'.now) : s'.Orderly settings := by
  rcases hc.ages_or_opened with ⟨hr, hj⟩ | ⟨id, nonzero, fresh, hr, hj⟩
  · exact h.ages hr hj hn
  -- room is made, and then the new session is added
  let room : Server := { s with registry := (s.registry.makeRoom settings s.now).1 }
  have hroom : room.Orderly settings := h.ages (Registry.Ages.makeRoom ..) rfl (Nat.le_refl _)
  have back : ∀ (k : Ticket) (e : Entry), s'.registry.get? k = some e →
      room.registry.get? k = some e ∨ e = ⟨.start id, s.now, true⟩ := by
    intro k e hk
    rw [hr] at hk
    exact Registry.get?_add hk
  constructor
  case nonzero =>
    intro k e hk
    rcases back k e hk with hk | rfl
    · exact hroom.nonzero k e hk
    · exact nonzero
  case keyed =>
    have hkeyed := hroom.keyed
    simp only [room] at hkeyed
    simp [hr, hj, Registry.add, hkeyed, Session.start]
  case unambiguous => exact hc.unambiguous h.unambiguous
  case past =>
    intro k e hk
    rcases back k e hk with hk | rfl
    · exact Nat.le_trans (hroom.past k e hk) hn
    · exact hn
  case capped =>
    intro cap hcap hpos
    have := Registry.size_makeRoom_lt hcap hpos s.now s.registry
    rw [hr, Registry.size_add]
    omega

end Server

end EnclaveGate
