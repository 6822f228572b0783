import EnclaveGate.Proofs.Registry.Others
import EnclaveGate.Proofs.Server.Opening
import EnclaveGate.Proofs.Session.Offer
import EnclaveGate.Proofs.Settings.Obtained
import EnclaveGate.Proofs.Traffic.Orderly

/-!
# Opening sessions in traffic

Whatever has happened before, an opening takes a session away only where the table is full. Then it
takes all that were idle for too long, and if these were none, the one that was active least
recently. The sessions that stay are addressed as before, under ids that are all different, and the
new one gets an id that nobody has.
-/

namespace EnclaveGate

namespace Server

variable {settings : Settings} {before after : Server} {id : SessionId} {evicted kept : List Entry}

/-- A session was opened, and exactly those made room for it that should. -/
structure Admits (settings : Settings) (before after : Server) (id : SessionId)
    (evicted kept : List Entry) : Prop where
  /-- Room was made where the table was full, by as many sessions as needed. -/
  room : Registry.MakesRoom settings before.now before.registry.table evicted kept
  /-- If removing what was idle for too long leaves room, nobody else goes. -/
  spared : ∀ cap, settings.maxSessions = some cap → cap ≤ before.registry.size →
    (Registry.lively settings before.now before.registry.table).length < cap →
    evicted = [] ∧ kept = Registry.lively settings before.now before.registry.table
  /-- The new session stands behind those that are kept, which are as they were. -/
  table : after.registry.table = kept ++ [⟨.start id, before.now, true⟩]
  /-- The new session has an id that nobody had. -/
  unused : ∀ e ∈ before.registry.table, e.session.id ≠ id
  /-- The new session is addressed by its id. -/
  present : after.registry.lookup? id = some ⟨.start id, before.now, true⟩
  /-- Who is kept is addressed as before. -/
  stays : ∀ e ∈ kept, before.registry.lookup? e.session.id = some e ∧
    after.registry.lookup? e.session.id = some e
  /-- Who is not kept is no longer addressed. -/
  leaves : ∀ e ∈ before.registry.table, e ∉ kept →
    after.registry.lookup? e.session.id = none
  /-- There are not more sessions than allowed, even without those that were idle for too long. -/
  bounded : ∀ cap, settings.maxSessions = some cap →
    (Registry.lively settings before.now before.registry.table).length ≤ cap
  /-- One session is evicted at most. -/
  few : evicted.length ≤ 1
  /-- None is evicted as long as one was idle for too long. -/
  lastResort : (∃ e ∈ before.registry.table,
    e.isExpired settings.sessionTimeout before.now = true) → evicted = []
  /-- The journal names who was evicted, and the new session. -/
  reported : after.journal =
    before.journal ++ evicted.map (fun e => .evicted e.session.id) ++ [.created id]

theorem Orderly.admits {challenge : Challenge} (h : before.Orderly settings)
    (h' : after.Orderly settings) (hpos : ∀ cap, settings.maxSessions = some cap → 1 ≤ cap)
    (hopen : before.openSession settings = (.ok challenge, after)) :
    ∃ evicted kept, before.Admits settings after challenge.sessionId evicted kept := by
  obtain ⟨hfresh, hregistry, hjournal⟩ := openSession_ok hopen
  obtain ⟨evicted, hroom, hevents⟩ := Registry.makeRoom_exact hpos before.now before.registry
  have hcapped : ∀ cap, settings.maxSessions = some cap → before.registry.table.length ≤ cap :=
    fun cap hcap => h.capped cap hcap (hpos cap hcap)
  have htable : after.registry.table = (before.registry.makeRoom settings before.now).1.table ++
      [⟨.start challenge.sessionId, before.now, true⟩] := by
    rw [hregistry, Registry.table_add]
  refine ⟨evicted, (before.registry.makeRoom settings before.now).1.table, ?_⟩
  constructor
  case room => exact hroom
  case spared => exact fun cap hcap hfull hlively => hroom.spares hcap hfull hlively
  case table => exact htable
  case unused => exact hfresh.2
  case present =>
    rw [Registry.lookup?_eq_some_iff_mem h'.unambiguous, htable]
    exact ⟨List.mem_append_right _ (List.mem_singleton_self _), rfl⟩
  case stays =>
    intro e he
    constructor
    · rw [Registry.lookup?_eq_some_iff_mem h.unambiguous]
      exact ⟨hroom.sublist.subset he, rfl⟩
    · rw [Registry.lookup?_eq_some_iff_mem h'.unambiguous, htable]
      exact ⟨List.mem_append_left _ he, rfl⟩
  case leaves =>
    intro e he hnot
    rw [Option.eq_none_iff_forall_ne_some]
    intro other hother
    rw [Registry.lookup?_eq_some_iff_mem h'.unambiguous, htable] at hother
    obtain ⟨hmem, hid⟩ := hother
    rcases List.mem_append.mp hmem with hkept | hnew
    · -- before, only one entry had this id
      have hold := (Registry.lookup?_eq_some_iff_mem h.unambiguous).mpr
        ⟨hroom.sublist.subset hkept, hid⟩
      have hsame := (Registry.lookup?_eq_some_iff_mem h.unambiguous).mpr ⟨he, rfl⟩
      rw [hsame] at hold
      cases hold
      exact hnot hkept
    · rw [List.mem_singleton.mp hnew] at hid
      exact hfresh.2 e he hid.symm
  case bounded =>
    intro cap hcap
    exact Nat.le_trans (Registry.lively_length_le settings before.now _) (hcapped cap hcap)
  case few => exact hroom.few hcapped
  case lastResort => exact hroom.lastResort hcapped
  case reported => rw [hjournal, hevents]

/-- Ids are kept apart: those in the table are all different and not zero, and what an id addresses
is not replaced by an opening. -/
structure KeepsApart (settings : Settings) (server : Server) : Prop where
  /-- No two sessions have the same id. -/
  distinct : (server.registry.table.map (·.session.id)).Nodup
  /-- No session has the id zero. -/
  nonzero : 0 ∉ server.registry.table.map (·.session.id)
  /-- A session that is opened takes the place of no other one. -/
  preserved : ∀ (id : SessionId) (e : Entry), server.registry.lookup? id = some e →
    (server.openSession settings).2.registry.lookup? id = some e ∨
      (server.openSession settings).2.registry.lookup? id = none

theorem Orderly.keepsApart (h : before.Orderly settings) : before.KeepsApart settings := by
  have h' : (before.openSession settings).2.Orderly settings :=
    h.change (before.openSession_change settings)
      (Traffic.now_le_step settings ⟨before, []⟩ .openSession)
  constructor
  case distinct => exact h.unambiguous.nodup_table
  case nonzero =>
    intro hzero
    obtain ⟨e, he, hid⟩ := List.mem_map.mp hzero
    obtain ⟨k, hk⟩ := List.mem_iff_getElem?.mp (List.mem_filter.mp he).1
    exact h.nonzero k e hk hid
  case preserved =>
    intro id e he
    cases hafter : (before.openSession settings).2.registry.lookup? id with
    | none => exact Or.inr rfl
    | some e' =>
      refine Or.inl (congrArg some ?_)
      obtain ⟨hmem, hid⟩ := (Registry.lookup?_eq_some_iff_mem h.unambiguous).mp he
      obtain ⟨hmem', hid'⟩ := (Registry.lookup?_eq_some_iff_mem h'.unambiguous).mp hafter
      -- the entry was there before, where only one entry had this id
      have hold : e' ∈ before.registry.table := by
        rcases mem_table_openSession hmem' with hold | hfresh
        · exact hold
        · exact absurd (hid.trans hid'.symm) (hfresh.2 e hmem)
      have hsame := (Registry.lookup?_eq_some_iff_mem h.unambiguous).mpr ⟨hold, hid'⟩
      rw [he] at hsame
      exact (Option.some.inj hsame).symm

end Server

namespace Traffic

variable {settings : Settings}

/-- Whatever has happened, a session that is opened makes go whom it should, and nobody else. -/
theorem opening_evicts_exactly (h : settings.Obtained) (tape : Tape) (actions : List Action)
    {challenge : Challenge} {after : Server}
    (hopen : ((start tape).run settings actions).server.openSession settings =
      (.ok challenge, after)) :
    ∃ evicted kept, ((start tape).run settings actions).server.Admits settings after
      challenge.sessionId evicted kept := by
  have ho := orderly_run actions (t := .start tape) (.start settings tape)
  have ho' := orderly_run [.openSession] ho
  have hafter : (((start tape).run settings actions).run settings [.openSession]).server = after :=
    congrArg Prod.snd hopen
  rw [hafter] at ho'
  exact ho.admits ho' (fun _ hcap => h.one_le_cap hcap) hopen

/-- Settings for two sessions, which may be idle for 10 ms. -/
def paired : Settings :=
  ((Settings.make (Block.zero 16) .one []).withMaxSessions (some 2)).withSessionTimeout (some 10)

/-- Random bytes for three sessions with the ids one, two and three. -/
def thrice : Tape :=
  ⟨List.replicate 32 0 ++ 1 :: List.replicate 39 0 ++ 2 :: List.replicate 39 0 ++
    3 :: List.replicate 7 0⟩

/-- The server on which the third session has taken the place of the first one. -/
def replaced : Server :=
  ⟨⟨[⟨.start 1, 0, false⟩, ⟨.start 2, 5, true⟩, ⟨.start 3, 5, true⟩]⟩, ⟨[]⟩, 5,
    [.created 1, .created 2, .evicted 1, .created 3]⟩

theorem paired_opening_evicts_exactly :
    paired.Obtained ∧
    ((start thrice).run paired [.openSession, .pass 5, .openSession]).server.openSession paired =
      (.ok ⟨3, Block.zero 32⟩, replaced) ∧
    ∃ evicted kept, ((start thrice).run paired
      [.openSession, .pass 5, .openSession]).server.Admits paired replaced 3 evicted kept := by
  have obtained : paired.Obtained := .withSessionTimeout (.withMaxSessions (.make ..) _) _
  have hopen : ((start thrice).run paired [.openSession, .pass 5, .openSession]).server.openSession
      paired = (.ok ⟨3, Block.zero 32⟩, replaced) := by decide +kernel
  exact ⟨obtained, hopen, opening_evicts_exactly obtained thrice _ hopen⟩

/-- Whatever the random bytes are, an opening draws the first fresh number or fails without a trace;
so ids are kept apart whatever happens. -/
theorem openings_draw_exactly (settings : Settings) (tape : Tape) (actions : List Action) :
    (∀ server : Server, server.OpensExactly settings) ∧
    ((start tape).run settings actions).server.KeepsApart settings :=
  ⟨fun server => server.openSession_exact settings,
    (orderly_run actions (t := .start tape) (.start settings tape)).keepsApart⟩

end Traffic

end EnclaveGate
