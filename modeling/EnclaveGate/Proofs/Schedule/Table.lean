import EnclaveGate.Proofs.Schedule.Simulation
import EnclaveGate.Proofs.Session.Offer
import EnclaveGate.Proofs.Settings.Obtained
import EnclaveGate.Proofs.Traffic.Orderly

/-!
# The table of sessions after every script

Whatever a script does, under whatever settings an operator can obtain: every session in the table
is addressed by the id under which it was opened, which is not zero, and still expects a message; no
activity lies in the future; and a cap on the number of sessions is positive and kept. However the
script goes on, no activity is ever moved back.
-/

namespace EnclaveGate

/-- The table of a server is sound. -/
structure Server.Sound (settings : Settings) (server : Server) : Prop where
  /-- No session in the table has the id zero. -/
  nonzero : ∀ e ∈ server.registry.table, e.session.id ≠ 0
  /-- An id addresses a session with that id, which was opened under it. -/
  keyed : ∀ (id : SessionId) (k : Ticket), server.registry.find? id = some k →
    ∃ e, server.registry.get? k = some e ∧ e.session.id = id ∧
      (server.journal.filterMap Event.created?)[k]? = some id
  /-- Every session in the table is addressed by its id. -/
  addressed : ∀ (k : Ticket) (e : Entry), server.registry.get? k = some e → e.isListed = true →
    server.registry.find? e.session.id = some k
  /-- Every session in the table expects a message. -/
  expectant : ∀ e ∈ server.registry.table, e.session.phase = .awaitingMsg1 ∨
    ∃ handshake, e.session.phase = .awaitingMsg3 handshake
  /-- No session in the table was active in the future. -/
  past : ∀ e ∈ server.registry.table, e.lastActive ≤ server.now
  /-- A cap is positive, and the table is not larger than it. -/
  capped : ∀ cap, settings.maxSessions = some cap → 1 ≤ cap ∧ server.registry.size ≤ cap

variable {settings : Settings}

/-- A phase that is not terminal expects a message. -/
theorem Phase.expectant {phase : Phase} (h : phase.isTerminal = false) :
    phase = .awaitingMsg1 ∨ ∃ handshake, phase = .awaitingMsg3 handshake := by
  cases phase with
  | awaitingMsg1 => exact Or.inl rfl
  | awaitingMsg3 handshake => exact Or.inr ⟨handshake, rfl⟩
  | established => cases h
  | failed => cases h

/-- A server in order is sound where no session in its table is over. -/
theorem Server.Orderly.sound {server : Server} (h : server.Orderly settings)
    (hpos : ∀ cap, settings.maxSessions = some cap → 1 ≤ cap)
    (hopen : ∀ e ∈ server.registry.table, e.session.isTerminal = false) :
    server.Sound settings := by
  have ticket : ∀ e ∈ server.registry.table, ∃ k, server.registry.get? k = some e := by
    intro e he
    exact List.mem_iff_getElem?.mp (List.mem_filter.mp he).1
  constructor
  case nonzero =>
    intro e he
    obtain ⟨k, hk⟩ := ticket e he
    exact h.nonzero k e hk
  case keyed =>
    intro id k hf
    obtain ⟨e, hk, -, hid⟩ := Registry.lists_of_find? hf
    refine ⟨e, hk, hid, ?_⟩
    rw [← h.keyed, List.getElem?_map]
    simp only [Registry.get?] at hk
    simp [hk, hid]
  case addressed =>
    intro k e hk hl
    exact (Registry.find?_eq_some_iff h.unambiguous).mpr ⟨e, hk, hl, rfl⟩
  case expectant => exact fun e he => Phase.expectant (hopen e he)
  case past =>
    intro e he
    obtain ⟨k, hk⟩ := ticket e he
    exact h.past k e hk
  case capped => exact fun cap hcap => ⟨hpos cap hcap, h.capped cap hcap (hpos cap hcap)⟩

namespace Schedule

/-- A schedule keeps no session in the table that is over. -/
theorem Tracks.open_of_mem_table {s : Schedule} {t : Traffic} (h : Tracks settings s t)
    (tidy : t.Tidy) : ∀ e ∈ s.server.registry.table, e.session.isTerminal = false := by
  intro e he
  obtain ⟨hmem, hlisted⟩ := List.mem_filter.mp he
  obtain ⟨k, hk⟩ := List.mem_iff_getElem?.mp hmem
  rw [← h.server] at hk
  rw [← Bool.not_eq_true]
  intro hover
  obtain ⟨i, request, v, r, hi, -⟩ :=
    tidy k e.session.id e.session ⟨e, hk, hlisted, rfl⟩ (t.sessions_getElem?_eq hk) hover
  -- no request in flight is about to remove its session
  obtain ⟨hl, -⟩ := List.getElem?_eq_some_iff.mp hi
  rw [h.length] at hl
  obtain ⟨stand, hstand, agrees⟩ := h.stands i _ (List.getElem?_eq_getElem hl)
  rw [hi] at hstand
  cases hstand
  exact agrees.not_leaving

/-- After every script the table is sound, and however the script goes on, every entry keeps its id
and is never less recently active than it was. -/
theorem table_sound (h : settings.Obtained) (tape : Tape)
    (script more : List (Authority × Step)) :
    let s := (start tape).performAll settings script
    s.server.Sound settings ∧
    ∀ (k : Ticket) (e : Entry), s.server.registry.get? k = some e →
      ∃ e', (s.performAll settings more).server.registry.get? k = some e' ∧
        e'.session.id = e.session.id ∧ e.lastActive ≤ e'.lastActive := by
  intro s
  have hpos : ∀ cap, settings.maxSessions = some cap → 1 ≤ cap := fun _ hcap => h.one_le_cap hcap
  obtain ⟨actions, hs⟩ := performAll_tracks settings tape script
  have ho := Traffic.orderly_run actions (t := .start tape) (.start settings tape)
  constructor
  · have ho' := ho
    rw [hs.server] at ho'
    exact ho'.sound hpos (hs.open_of_mem_table (Traffic.tidy_run settings tape actions))
  · intro k e hk
    obtain ⟨later, hmore⟩ := leadsTo_performAll more s _ hs
    rw [← hs.server] at hk
    obtain ⟨e', he', hid, ha⟩ := Traffic.entry_run later ho hk
    exact ⟨e', hmore.server ▸ he', hid, ha⟩

/-! ## A cap of zero -/

/-- Settings with a cap of zero, which is raised to one. -/
def narrow : Settings := (Settings.make (Block.zero 16) .one []).withMaxSessions (some 0)

/-- Random bytes for two sessions with the ids one and two. -/
def twice : Tape :=
  ⟨List.replicate 32 0 ++ 1 :: List.replicate 39 0 ++ 2 :: List.replicate 7 0⟩

/-- The second session takes the place of the first one. -/
theorem narrow_table_sound :
    narrow.Obtained ∧
    ((start twice).performAll narrow [(default, .openSession), (default, .openSession)]).server =
      ⟨⟨[⟨.start 1, 0, false⟩, ⟨.start 2, 0, true⟩]⟩, ⟨[]⟩, 0,
        [.created 1, .evicted 1, .created 2]⟩ ∧
    ((start twice).performAll narrow
      [(default, .openSession), (default, .openSession)]).server.Sound narrow := by
  have obtained : narrow.Obtained := .withMaxSessions (.make ..) (some 0)
  exact ⟨obtained, by decide +kernel, (table_sound obtained twice _ []).1⟩

end Schedule

end EnclaveGate
