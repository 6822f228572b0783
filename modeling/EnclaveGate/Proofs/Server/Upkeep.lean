import EnclaveGate.Proofs.Registry.Upkeep
import EnclaveGate.Proofs.Server.Replies

/-!
# Purges between requests

Whether and how often sessions that were idle for too long are removed between requests cannot be
observed: the same challenges are given, the same sessions are evicted, and every request is answered
in the same way. Only counts of removed sessions differ, and what the journal says about removals.
The one way in which old sessions could show is that their ids are still taken when a new id is drawn.
-/

namespace EnclaveGate

/-! ## What the journal says about removals -/

/-- An event that reports the removal of sessions that were idle for too long. -/
def Event.isUpkeep : Event → Bool
  | expired _ | purged _ => true
  | _ => false

theorem Event.level_of_isUpkeep {event : Event} (h : event.isUpkeep = true) :
    event.level = .debug := by
  cases event <;> first | rfl | cases h

namespace Server

/-! ## Drawing ids -/

/-- The ids that are drawn until one is neither zero nor in use, at most `tries`. -/
def idsUpTo (registry : Registry) : Nat → Tape → List SessionId
  | 0, _ => []
  | tries + 1, tape =>
    match tape.draw? 8 with
    | none => []
    | some (bytes, rest) =>
      let id := UInt64.ofNat bytes.natLE
      id :: if id = 0 || registry.hasId id then idsUpTo registry tries rest else []

/-- The ids that are drawn when a session is opened. -/
def drawnIds (server : Server) : List SessionId :=
  match server.tape.draw? 32 with
  | none => []
  | some (_, tape) => idsUpTo server.registry (tape.size / 8) tape

/-- Whether an id that is drawn when a session is opened addresses a session that was idle for too
long. -/
def collides (settings : Settings) (server : Server) : Bool :=
  server.drawnIds.any fun id =>
    (server.registry.lookup? id).any (·.isExpired settings.sessionTimeout server.now)

/-- Whether no id is ever drawn that addresses a session that was idle for too long. -/
def neverCollides (settings : Settings) (server : Server) : List Turn → Bool
  | [] => true
  | .openSession :: turns =>
    !server.collides settings && (server.turn settings .openSession).neverCollides settings turns
  | turn :: turns => (server.turn settings turn).neverCollides settings turns

/-! ## Two servers -/

/-- Two servers differ only in sessions that were idle for too long, and in what the journal says
about their removal. -/
structure Alike (settings : Settings) (s s' : Server) : Prop where
  /-- The registries are alike. -/
  registry : s.registry.Alike settings s.now s'.registry
  /-- The random bytes are the same. -/
  tape : s'.tape = s.tape
  /-- It is the same time. -/
  now : s'.now = s.now
  /-- The journals are the same but for removals. -/
  journal : s'.journal.filter (!·.isUpkeep) = s.journal.filter (!·.isUpkeep)

variable {settings : Settings} {s s' s'' : Server}

namespace Alike

theorem refl (settings : Settings) (s : Server) : s.Alike settings s :=
  ⟨.refl settings s.now s.registry, rfl, rfl, rfl⟩

theorem symm (h : s.Alike settings s') : s'.Alike settings s where
  registry := h.now.symm ▸ h.registry.symm
  tape := h.tape.symm
  now := h.now.symm
  journal := h.journal.symm

theorem trans (h : s.Alike settings s') (h' : s'.Alike settings s'') :
    s.Alike settings s'' where
  registry := h.registry.trans (h.now ▸ h'.registry)
  tape := h'.tape.trans h.tape
  now := h'.now.trans h.now
  journal := h'.journal.trans h.journal

theorem contains_eq (h : s.Alike settings s') (hu : s.registry.Unambiguous)
    (hu' : s'.registry.Unambiguous) (id : SessionId) :
    s'.contains settings id = s.contains settings id := by
  rw [contains, contains, h.now]
  exact h.registry.contains_eq hu hu' id

theorem advance (h : s.Alike settings s') (ms : Nat) :
    (s.advance ms).Alike settings (s'.advance ms) where
  registry := h.registry.later (Nat.le_add_right ..)
  tape := h.tape
  now := congrArg (· + ms) h.now
  journal := h.journal

/-- After a purge a server is like the one before. -/
theorem purge (settings : Settings) (s : Server) : s.Alike settings (s.purge settings).2 where
  registry := .dropExpired settings s.now s.registry
  tape := rfl
  now := rfl
  journal := by
    simp only [Server.purge, report]
    split <;> simp [Event.isUpkeep]

end Alike

/-! ## Opening -/

/-- An id is drawn in the same way where the same ids are in use among those that are drawn. -/
theorem drawIdUpTo_congr {r r' : Registry} {p p' : SessionId → Prop} (tries : Nat) (tape : Tape)
    (hp : ∀ id ∈ idsUpTo r tries tape, p id) (hp' : ∀ id ∈ idsUpTo r' tries tape, p' id)
    (h : ∀ id, p id → p' id → r'.hasId id = r.hasId id) :
    drawIdUpTo r' tries tape = drawIdUpTo r tries tape := by
  induction tries generalizing tape with
  | zero => rfl
  | succ tries ih =>
    simp only [idsUpTo] at hp hp'
    simp only [drawIdUpTo]
    cases hd : tape.draw? 8 with
    | none => rfl
    | some drawn =>
      obtain ⟨bytes, rest⟩ := drawn
      simp only [hd] at hp hp'
      have hid := h _ (hp _ List.mem_cons_self) (hp' _ List.mem_cons_self)
      simp only [hid] at hp' ⊢
      split
      · rename_i hused
        rw [if_pos hused] at hp hp'
        exact ih rest (fun id hm => hp id (List.mem_cons_of_mem _ hm))
          fun id hm => hp' id (List.mem_cons_of_mem _ hm)
      · rfl

/-- No id that is drawn addresses a session that was idle for too long. -/
theorem not_isExpired_of_not_collides (h : s.collides settings = false) :
    ∀ id ∈ s.drawnIds, ∀ e, s.registry.lookup? id = some e →
      e.isExpired settings.sessionTimeout s.now = false := by
  intro id hid e he
  have hall := List.any_eq_false.mp h id hid
  rw [he] at hall
  simpa using hall

/-- Opening gives the same challenge and keeps both servers alike, if no id is drawn that addresses a
session that was idle for too long. -/
theorem Alike.openSession (h : s.Alike settings s') (hu : s.registry.Unambiguous)
    (hu' : s'.registry.Unambiguous) (hc : s.collides settings = false)
    (hc' : s'.collides settings = false) :
    (s'.openSession settings).1 = (s.openSession settings).1 ∧
    (s.openSession settings).2.Alike settings (s'.openSession settings).2 := by
  have live := not_isExpired_of_not_collides hc
  have live' := not_isExpired_of_not_collides hc'
  unfold drawnIds at live live'
  unfold Server.openSession
  rw [h.tape] at live' ⊢
  rw [h.now] at live'
  cases hd : s.tape.draw? 32 with
  | none => exact ⟨rfl, h⟩
  | some drawn =>
    obtain ⟨challenge, tape⟩ := drawn
    simp only [hd] at live live'
    have hdraw : drawId s'.registry tape = drawId s.registry tape :=
      drawIdUpTo_congr _ tape live live' fun id hx hx' => h.registry.hasId_eq hu hu' hx hx'
    dsimp only
    rw [hdraw]
    rcases drawId s.registry tape with ⟨e | id, rest⟩
    · exact ⟨rfl, h.registry, rfl, h.now, h.journal⟩
    · refine ⟨rfl, ?_⟩
      obtain ⟨hroom, hevents⟩ := h.registry.makeRoom
      simp only [register, h.now]
      refine ⟨hroom.add (.start id) s.now, rfl, rfl, ?_⟩
      simp only [List.filter_append, h.journal, hevents]

/-! ## Requests -/

/-- A request whose id addresses nothing, or a session that was idle for too long, is answered in one
way. -/
theorem handle_of_idle {request : Request} (authority : Authority)
    (hx : ∀ e, s.registry.lookup? request.sessionId = some e →
      e.isExpired settings.sessionTimeout s.now = true) :
    (s.handle settings authority request).1 = .error (.sessionNotFound request.sessionId) ∧
    s.Alike settings (s.handle settings authority request).2 := by
  rw [handle_eq]
  cases he : s.registry.lookup? request.sessionId with
  | none =>
    refine ⟨rfl, ?_⟩
    simp only [Request.react, Request.miss, Registry.put_none, List.append_nil]
    exact .refl settings s
  | some e =>
    have hexp := hx e he
    obtain ⟨k, hf, hk, -, -⟩ := Registry.find?_of_lookup? he
    simp only [Request.react_of_isExpired hexp, Request.expire, Registry.put_of_find? hf]
    refine ⟨trivial, .unlisted hk hexp, rfl, rfl, ?_⟩
    simp [Event.isUpkeep]

/-- A request to a session that was not idle for too long is answered in the same way. -/
theorem Alike.handle_of_live (h : s.Alike settings s') (hu' : s'.registry.Unambiguous)
    {request : Request} (authority : Authority) {e : Entry}
    (he : s.registry.lookup? request.sessionId = some e)
    (hx : e.isExpired settings.sessionTimeout s.now = false) :
    (s'.handle settings authority request).1 = (s.handle settings authority request).1 ∧
    (s.handle settings authority request).2.Alike settings
      (s'.handle settings authority request).2 := by
  obtain ⟨k, hf, hk, -, -⟩ := Registry.find?_of_lookup? he
  have he' := h.registry.lookup?_of_not_isExpired hu' he hx
  have hf' := h.registry.find?_of_not_isExpired hu' hf hk hx
  rw [handle_eq, handle_eq, he, he', h.now, h.tape, Request.react_of_not_isExpired hx]
  refine ⟨rfl, ?_⟩
  simp only [Request.complete, Registry.put_of_find? hf, Registry.put_of_find? hf']
  refine ⟨?_, rfl, rfl, ?_⟩
  · exact (h.registry.later (Nat.le_add_right ..)).update k _
  · simp only [List.filter_append, h.journal]

/-- Every request is answered in the same way, and keeps both servers alike. -/
theorem Alike.handle (h : s.Alike settings s') (hu : s.registry.Unambiguous)
    (hu' : s'.registry.Unambiguous) (authority : Authority) (request : Request) :
    (s'.handle settings authority request).1 = (s.handle settings authority request).1 ∧
    (s.handle settings authority request).2.Alike settings
      (s'.handle settings authority request).2 := by
  by_cases hx : ∀ e, s.registry.lookup? request.sessionId = some e →
      e.isExpired settings.sessionTimeout s.now = true
  · -- nothing is addressed that was not idle for too long, on either server
    have hx' : ∀ e, s'.registry.lookup? request.sessionId = some e →
        e.isExpired settings.sessionTimeout s'.now = true := by
      intro e he
      by_contra hlive
      rw [Bool.not_eq_true] at hlive
      have hback := h.symm.registry.lookup?_of_not_isExpired hu he hlive
      have hboth := hx e hback
      rw [h.now, hboth] at hlive
      cases hlive
    obtain ⟨hr, hm⟩ := handle_of_idle authority hx
    obtain ⟨hr', hm'⟩ := handle_of_idle authority hx'
    exact ⟨hr'.trans hr.symm, (hm.symm.trans h).trans hm'⟩
  · simp only [Classical.not_forall, Bool.not_eq_true] at hx
    obtain ⟨e, he, hlive⟩ := hx
    exact h.handle_of_live hu' authority he hlive

/-! ## Turns with more purges -/

/-- A turn is answered in the same way, unless it removes sessions, and keeps both servers alike. -/
theorem Alike.turn (h : s.Alike settings s') (hu : s.registry.Unambiguous)
    (hu' : s'.registry.Unambiguous) {turn : Turn}
    (hc : turn = .openSession → s.collides settings = false)
    (hc' : turn = .openSession → s'.collides settings = false) :
    (turn ≠ .purge → s'.reply settings turn = s.reply settings turn) ∧
    (s.turn settings turn).Alike settings (s'.turn settings turn) := by
  cases turn with
  | pass ms => exact ⟨fun _ => rfl, h.advance ms⟩
  | openSession =>
    obtain ⟨hr, hm⟩ := h.openSession hu hu' (hc rfl) (hc' rfl)
    exact ⟨fun _ => congrArg Reply.opened hr, hm⟩
  | purge =>
    have back := (Alike.purge settings s).symm
    exact ⟨fun hne => absurd rfl hne, (back.trans h).trans (.purge settings s')⟩
  | handle request authority =>
    obtain ⟨hr, hm⟩ := h.handle hu hu' authority request
    refine ⟨fun _ => ?_, hm⟩
    simp only [reply, hr]

/-- The second turns are the first ones with purges inserted anywhere, also while time passes. -/
inductive Purges : List Turn → List Turn → Prop
  /-- There are no turns. -/
  | nil : Purges [] []
  /-- The first turn is the same. -/
  | keep (turn : Turn) {turns turns' : List Turn} (h : Purges turns turns') :
    Purges (turn :: turns) (turn :: turns')
  /-- There is another purge. -/
  | purge {turns turns' : List Turn} (h : Purges turns turns') : Purges turns (.purge :: turns')
  /-- Time passes in two parts. -/
  | split (first rest : Nat) {turns turns' : List Turn} (h : Purges (.pass rest :: turns) turns') :
    Purges (.pass (first + rest) :: turns) (.pass first :: turns')

theorem Purges.append {before before' after after' : List Turn} (h : Purges before before')
    (ha : Purges after after') : Purges (before ++ after) (before' ++ after') := by
  induction h with
  | nil => exact ha
  | keep turn h ih => exact .keep turn ih
  | purge h ih => exact .purge ih
  | split first rest h ih => exact .split first rest ih

/-- Before any turn, the turns with more purges have come equally far. -/
theorem Purges.of_append {turns turns' : List Turn} (h : Purges turns turns')
    {before after : List Turn} (hturns : turns = before ++ after) :
    ∃ before' after', turns' = before' ++ after' ∧ Purges before before' ∧ Purges after after' := by
  induction h generalizing before with
  | nil =>
    obtain ⟨rfl, rfl⟩ := List.append_eq_nil_iff.mp hturns.symm
    exact ⟨[], [], rfl, .nil, .nil⟩
  | keep turn h ih =>
    cases before with
    | nil =>
      rw [List.nil_append] at hturns
      exact ⟨[], _, rfl, .nil, hturns ▸ .keep turn h⟩
    | cons first before =>
      obtain ⟨rfl, hrest⟩ := List.cons.inj hturns
      obtain ⟨before', after', rfl, hb, ha⟩ := ih hrest
      exact ⟨turn :: before', after', rfl, .keep turn hb, ha⟩
  | purge h ih =>
    obtain ⟨before', after', rfl, hb, ha⟩ := ih hturns
    exact ⟨.purge :: before', after', rfl, .purge hb, ha⟩
  | @split first rest turns turns' h ih =>
    cases before with
    | nil =>
      rw [List.nil_append] at hturns
      exact ⟨[], _, rfl, .nil, hturns ▸ .split first rest h⟩
    | cons turn before =>
      obtain ⟨rfl, hrest⟩ := List.cons.inj hturns
      have hlater : Turn.pass rest :: turns = (.pass rest :: before) ++ after :=
        congrArg (.pass rest :: ·) hrest
      obtain ⟨before', after', rfl, hb, ha⟩ := ih hlater
      exact ⟨.pass first :: before', after', rfl, .split first rest hb, ha⟩

/-- Whether a reply gives a challenge or answers a request. -/
def Reply.isSeen {α : Type} : Reply α → Bool
  | opened _ | answered _ => true
  | passed | purged _ => false

/-- The challenges that are given in any number of turns, and the answers to requests. -/
def seen (settings : Settings) (server : Server) (turns : List Turn) : List (Reply Answered) :=
  (server.replies settings turns).filter (·.isSeen)

theorem neverCollides_cons {turn : Turn} {turns : List Turn} :
    s.neverCollides settings (turn :: turns) = true ↔
      (turn = .openSession → s.collides settings = false) ∧
      (s.turn settings turn).neverCollides settings turns = true := by
  cases turn <;> simp [neverCollides]

theorem neverCollides_append {before after : List Turn}
    (h : s.neverCollides settings (before ++ after) = true) :
    s.neverCollides settings before = true := by
  induction before generalizing s with
  | nil => rfl
  | cons turn before ih =>
    obtain ⟨hc, hrest⟩ := neverCollides_cons.mp h
    exact neverCollides_cons.mpr ⟨hc, ih hrest⟩

theorem advance_add (server : Server) (first rest : Nat) :
    server.advance (first + rest) = (server.advance first).advance rest := by
  simp only [advance, Nat.add_assoc]

/-- Two servers stay alike when one of them purges more often, and what is seen is the same. -/
theorem Alike.turns {turns turns' : List Turn} (hp : Purges turns turns')
    (h : s.Alike settings s') (ho : s.Orderly settings) (ho' : s'.Orderly settings)
    (hc : s.neverCollides settings turns = true) (hc' : s'.neverCollides settings turns' = true) :
    s'.seen settings turns' = s.seen settings turns ∧
    (s.turns settings turns).Alike settings (s'.turns settings turns') := by
  induction hp generalizing s s' with
  | nil => exact ⟨rfl, h⟩
  | @keep turn turns turns' hp ih =>
    obtain ⟨hturn, hrest⟩ := neverCollides_cons.mp hc
    obtain ⟨hturn', hrest'⟩ := neverCollides_cons.mp hc'
    obtain ⟨hr, hm⟩ := h.turn ho.unambiguous ho'.unambiguous hturn hturn'
    obtain ⟨hseen, hend⟩ := ih hm (ho.turn turn) (ho'.turn turn) hrest hrest'
    refine ⟨?_, hend⟩
    unfold seen at hseen ⊢
    rw [replies, replies, List.filter_cons, List.filter_cons, hseen]
    by_cases hpurge : turn = .purge
    · subst hpurge
      rfl
    · rw [hr hpurge]
  | purge hp ih =>
    -- the other server takes a turn alone, and is alike before and after it
    obtain ⟨-, hrest'⟩ := neverCollides_cons.mp hc'
    exact ih (h.trans (.purge settings s')) ho (ho'.turn .purge) hc hrest'
  | @split first rest turns turns' hp ih =>
    obtain ⟨-, hrest⟩ := neverCollides_cons.mp hc
    obtain ⟨-, hrest'⟩ := neverCollides_cons.mp hc'
    have hlater : s.turn settings (.pass (first + rest)) =
        (s.turn settings (.pass first)).turn settings (.pass rest) := s.advance_add first rest
    rw [hlater] at hrest
    have hnever : (s.turn settings (.pass first)).neverCollides settings (.pass rest :: turns) =
        true := hrest
    obtain ⟨hseen, hend⟩ := ih (h.advance first) (ho.turn (.pass first)) (ho'.turn (.pass first))
      hnever hrest'
    rw [turns_cons] at hend
    rw [turns_cons, hlater]
    refine ⟨?_, hend⟩
    unfold seen at hseen ⊢
    rw [replies] at hseen
    rw [replies, replies, hlater]
    exact hseen

/-! ## Servers that cannot be told apart -/

/-- The sessions that can be addressed and were not idle for too long. -/
def live (settings : Settings) (server : Server) : List Entry :=
  server.registry.table.filter (!·.isExpired settings.sessionTimeout server.now)

/-- Two servers cannot be told apart, except by the number of sessions and by what the journal says
about removals. -/
structure Resembles (settings : Settings) (s s' : Server) : Prop where
  /-- It is the same time. -/
  now : s'.now = s.now
  /-- The random bytes are the same. -/
  tape : s'.tape = s.tape
  /-- The same ids are contained. -/
  contains : ∀ id, s'.contains settings id = s.contains settings id
  /-- The sessions that were not idle for too long are the same, and were last active when they
  were. -/
  live : s'.live settings = s.live settings
  /-- The journals are the same but for removals. -/
  journal : s'.journal.filter (!·.isUpkeep) = s.journal.filter (!·.isUpkeep)
  /-- So they are the same above the level of details. -/
  report : s'.journal.filter (·.level ≠ .debug) = s.journal.filter (·.level ≠ .debug)

/-- Alike servers cannot be told apart. -/
theorem Alike.resembles (h : s.Alike settings s') (hu : s.registry.Unambiguous)
    (hu' : s'.registry.Unambiguous) : s.Resembles settings s' where
  now := h.now
  tape := h.tape
  contains := h.contains_eq hu hu'
  live := by
    rw [live, live, h.now]
    exact h.registry.live_eq
  journal := h.journal
  report := by
    -- nothing is lost above the level of details when removals are left out
    have without : ∀ journal : List Event, journal.filter (·.level ≠ .debug) =
        (journal.filter (!·.isUpkeep)).filter (·.level ≠ .debug) := by
      intro journal
      rw [List.filter_filter]
      refine List.filter_congr fun event _ => ?_
      cases hu : event.isUpkeep with
      | false => simp
      | true => simp [Event.level_of_isUpkeep hu]
    rw [without, h.journal, ← without]

/-- Purges that are inserted between turns go unnoticed. -/
structure Unnoticed (settings : Settings) (s : Server) (turns turns' : List Turn) : Prop where
  /-- The same challenges are given, and every request is answered in the same way. -/
  seen : s.seen settings turns' = s.seen settings turns
  /-- Whenever the servers have come equally far, the same was seen, and they cannot be told
  apart. -/
  meanwhile : ∀ before after, turns = before ++ after → ∃ before' after',
    turns' = before' ++ after' ∧ Purges before before' ∧ Purges after after' ∧
    s.seen settings before' = s.seen settings before ∧
    (s.turns settings before).Resembles settings (s.turns settings before')

theorem Purges.unnoticed {turns turns' : List Turn} (h : Purges turns turns')
    (ho : s.Orderly settings) (hc : s.neverCollides settings turns = true)
    (hc' : s.neverCollides settings turns' = true) : s.Unnoticed settings turns turns' where
  seen := (Alike.turns h (.refl settings s) ho ho hc hc').1
  meanwhile := by
    intro before after hturns
    obtain ⟨before', after', rfl, hb, ha⟩ := h.of_append hturns
    subst hturns
    obtain ⟨hseen, hm⟩ := Alike.turns hb (.refl settings s) ho ho (neverCollides_append hc)
      (neverCollides_append hc')
    exact ⟨before', after', rfl, hb, ha, hseen,
      hm.resembles (ho.turns before).unambiguous (ho.turns before').unambiguous⟩

/-! ## What a purge does -/

/-- A purge removes the sessions that were idle for longer than the limit, and nothing else. -/
structure PurgesExactly (settings : Settings) (s : Server) : Prop where
  /-- The sessions that were not idle for longer than the limit are kept as they are. -/
  kept : (s.purge settings).2.registry.table = s.registry.table.filter fun e =>
    settings.sessionTimeout.all fun limit => s.now - e.lastActive ≤ limit
  /-- The others are counted. -/
  counted : (s.purge settings).1 + (s.purge settings).2.registry.size = s.registry.size
  /-- Time stands still, and nothing is drawn. -/
  rest : (s.purge settings).2.now = s.now ∧ (s.purge settings).2.tape = s.tape
  /-- What was removed is reported, if anything was. -/
  journal : (s.purge settings).2.journal =
    s.journal ++ if 0 < (s.purge settings).1 then [.purged (s.purge settings).1] else []
  /-- Without a limit nothing happens. -/
  forever : settings.sessionTimeout = none → s.purge settings = (0, s)

/-- A session was not idle for too long if there is no limit or it was active within the limit. -/
theorem not_isExpired_eq (e : Entry) (limit : Option Nat) (now : Nat) :
    (!e.isExpired limit now) = limit.all fun limit => now - e.lastActive ≤ limit := by
  cases limit with
  | none => rfl
  | some limit =>
    rw [Bool.eq_iff_iff]
    simp [Entry.isExpired]

theorem purges_exactly (settings : Settings) (s : Server) : s.PurgesExactly settings where
  kept := by
    show (s.registry.dropExpired settings s.now).table = _
    rw [Registry.table_dropExpired]
    simp only [not_isExpired_eq]
  counted := by
    show s.registry.countExpired settings s.now +
      (s.registry.dropExpired settings s.now).table.length = s.registry.table.length
    rw [Registry.table_dropExpired, Registry.countExpired, ← List.countP_eq_length_filter,
      List.length_eq_countP_add_countP fun e => e.isExpired settings.sessionTimeout s.now]
    simp
  rest := ⟨rfl, rfl⟩
  journal := rfl
  forever := by
    intro hnone
    have hx : ∀ e : Entry, e.isExpired settings.sessionTimeout s.now = false := by
      intro e
      rw [hnone]
      rfl
    have hcount : s.registry.countExpired settings s.now = 0 := by
      simp [Registry.countExpired, hx]
    have hdrop : s.registry.dropExpired settings s.now = s.registry := by
      simp [Registry.dropExpired, hx]
    simp [purge, report, hcount, hdrop]

end Server

end EnclaveGate
