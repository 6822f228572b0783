import EnclaveGate.Proofs.Registry.Capacity

/-!
# Removal from the table

A registry that removes sessions from its table keeps their entries. No session becomes active by
that, and what is removed was idle for too long or had to make room. A message that reaches a session
changes the entry of that session only, and removes it if it is over.
-/

namespace EnclaveGate

theorem Entry.isExpired_iff {limit : Option Nat} {now : Nat} {e : Entry} :
    e.isExpired limit now = true ↔ ∃ ms, limit = some ms ∧ ms < now - e.lastActive := by
  cases limit <;> simp [isExpired]

/-- The id of a session that had to make room. -/
def Event.evicted? : Event → Option SessionId
  | evicted id => some id
  | _ => none

namespace Registry

variable {settings : Settings} {now now' : Nat} {evicted : List SessionId} {r r' : Registry}
  {k j : Ticket} {id : SessionId}

/-- What was idle for too long still is, as long as it does not become active. -/
theorem Expired.later (h : r.Expired settings now k) (hn : now ≤ now')
    (hk : ∀ e, r.get? k = some e → ∃ e', r'.get? k = some e' ∧ e'.lastActive = e.lastActive) :
    r'.Expired settings now' k := by
  obtain ⟨e, he, hx⟩ := h
  obtain ⟨e', he', ha⟩ := hk e he
  obtain ⟨ms, hms, hlt⟩ := Entry.isExpired_iff.mp hx
  exact ⟨e', he', Entry.isExpired_iff.mpr ⟨ms, hms, by omega⟩⟩

/-! ## Removal -/

/-- Nothing happened to a registry but that sessions were removed: some that were idle for too long,
and those with certain ids. -/
structure Prunes (settings : Settings) (now : Nat) (evicted : List SessionId) (r r' : Registry) :
    Prop where
  /-- No session became active, whatever the time is. -/
  ages : ∀ time, r.Ages time r'
  /-- No session with one of the ids is left. -/
  gone : ∀ (k : Ticket) (id : SessionId), r'.Lists k id → id ∉ evicted
  /-- Every other session is left, unless it was idle for too long. -/
  left : ∀ (k : Ticket) (id : SessionId), r.Lists k id →
    r'.Lists k id ∨ r.Expired settings now k ∨ id ∈ evicted

namespace Prunes

theorem refl (settings : Settings) (now : Nat) (r : Registry) : r.Prunes settings now [] r where
  ages := fun time => .refl time r
  gone := fun _ _ _ => List.not_mem_nil
  left := fun _ _ h => Or.inl h

theorem dropExpired (settings : Settings) (now : Nat) (r : Registry) :
    r.Prunes settings now [] (r.dropExpired settings now) where
  ages := fun time => .dropExpired r settings now time
  gone := fun _ _ _ => List.not_mem_nil
  left := by
    intro k id h
    by_cases hx : r.Expired settings now k
    · exact Or.inr (Or.inl hx)
    · exact Or.inl ((lists_dropExpired now).mpr ⟨h, hx⟩)

/-- A session that was idle for too long may be removed alone. -/
theorem unlist (h : r.Expired settings now j) : r.Prunes settings now [] (r.unlist j) where
  ages := fun time => .unlist r j time
  gone := fun _ _ _ => List.not_mem_nil
  left := by
    intro k id hk
    by_cases hkj : k = j
    · exact Or.inr (Or.inl (hkj ▸ h))
    · exact Or.inl ((lists_unlist j).mpr ⟨hkj, hk⟩)

/-- Whoever has to make room is reported. -/
theorem makeRoom (h : r.Unambiguous) (settings : Settings) (now : Nat) :
    r.Prunes settings now ((r.makeRoom settings now).2.filterMap Event.evicted?)
      (r.makeRoom settings now).1 := by
  have mem : ∀ id, id ∈ (r.makeRoom settings now).2.filterMap Event.evicted? ↔
      Event.evicted id ∈ (r.makeRoom settings now).2 := by
    intro id
    rw [List.mem_filterMap]
    constructor
    · rintro ⟨event, hm, he⟩
      cases event <;> cases he
      exact hm
    · exact fun hm => ⟨_, hm, rfl⟩
  constructor
  case ages => exact fun time => .makeRoom r settings now time
  case gone =>
    intro k id hk
    rw [mem]
    exact ((lists_makeRoom_iff h now).mp hk).2.2
  case left =>
    intro k id hk
    rw [mem]
    by_cases hx : r.Expired settings now k
    · exact Or.inr (Or.inl hx)
    · by_cases he : Event.evicted id ∈ (r.makeRoom settings now).2
      · exact Or.inr (Or.inr he)
      · exact Or.inl ((lists_makeRoom_iff h now).mpr ⟨hk, fun hfull => hx hfull.2, he⟩)

/-- An entry stays as it was, but for its place in the table. -/
theorem kept (h : r.Prunes settings now evicted r') {e : Entry} (hk : r.get? k = some e) :
    ∃ e', r'.get? k = some e' ∧ e'.session.id = e.session.id ∧ e'.lastActive = e.lastActive := by
  obtain ⟨e', he', ha⟩ := (h.ages e.lastActive).get?_left hk
  exact ⟨e', he', ha.id_eq, ha.active.elim (fun h => h) fun h => h⟩

theorem lists (h : r.Prunes settings now evicted r') (hk : r'.Lists k id) : r.Lists k id :=
  (h.ages now).lists hk

theorem expired (h : r.Prunes settings now evicted r') (hn : now ≤ now')
    (hk : r.Expired settings now k) : r'.Expired settings now' k :=
  hk.later hn fun _ he => (h.kept he).imp fun _ h' => ⟨h'.1, h'.2.2⟩

end Prunes

/-! ## Visits -/

/-- A session with the id under which another one is listed may take its place. -/
theorem Lists.id_eq (h : r.Lists k id) {session : Session} (hid : session.id = id) (e : Entry)
    (he : r.get? k = some e) : session.id = e.session.id := by
  obtain ⟨e', he', -, hid'⟩ := h
  rw [he] at he'
  cases he'
  exact hid.trans hid'.symm

/-- A message reached a session, which has become something; if it is over, it is removed. -/
def visit (registry : Registry) (k : Ticket) (session : Session) (now : Nat) : Registry :=
  if session.isTerminal then (registry.store k session now).unlist k
  else registry.store k session now

variable {session : Session}

/-- The entry of a session that was visited. -/
theorem get?_visit {e : Entry} (hk : r.get? k = some e) (session : Session) (now : Nat) :
    (r.visit k session now).get? k = some ⟨session, now, e.isListed && !session.isTerminal⟩ := by
  cases ht : session.isTerminal <;> simp [visit, ht, store, unlist, get?_update, hk]

theorem get?_visit_ne (h : k ≠ j) (session : Session) (now : Nat) :
    (r.visit k session now).get? j = r.get? j := by
  cases ht : session.isTerminal <;> simp [visit, ht, store, unlist, get?_update, h]

/-- A visit removes a session that is over afterwards, and no other one. -/
theorem lists_visit_iff (h : ∀ e, r.get? k = some e → session.id = e.session.id) (now : Nat) :
    (r.visit k session now).Lists j id ↔
      r.Lists j id ∧ ¬ (j = k ∧ session.isTerminal = true) := by
  cases ht : session.isTerminal with
  | false => simp [visit, ht, lists_store h]
  | true =>
    simp only [visit, ht, if_true, lists_unlist, lists_store h, and_true]
    exact And.comm

theorem get?_touch {e : Entry} (hk : r.get? k = some e) (now : Nat) :
    (r.touch k now).get? k = some { e with lastActive := now } := by
  simp [touch, get?_update, hk]

/-- What a message finds on its arrival does not matter after its visit. -/
theorem visit_touch (r : Registry) (k : Ticket) (session : Session) (now now' : Nat) :
    (r.touch k now).visit k session now' = r.visit k session now' := by
  have store : (r.touch k now).store k session now' = r.store k session now' := by
    simp only [Registry.store, touch, update, List.modify_modify_eq]
    rfl
  rw [visit, visit, store]

end Registry

end EnclaveGate
