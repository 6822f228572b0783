import EnclaveGate.Proofs.Registry.Capacity
import Mathlib.Data.List.Perm.Basic

/-!
# Who makes room

Each eviction takes out of the table one entry that was active no later than any other one. From
this one step it follows, for any number of evictions, that the table splits into those that go and
those that stay, in their old order, and that nobody goes who was active later than one who stays. A
full table first loses what was idle for too long, so eviction concerns the others only.
-/

namespace EnclaveGate

namespace Registry

/-- A table gives up some entries and keeps the others: `n` entries go, and none of them was active
later than one that stays. -/
structure Yields (n : Nat) (table evicted kept : List Entry) : Prop where
  /-- So many entries go. -/
  count : evicted.length = n
  /-- Every entry goes or stays. -/
  split : table.Perm (evicted ++ kept)
  /-- What stays keeps its order. -/
  order : kept.Sublist table
  /-- Those go that were active least recently. -/
  least : ∀ old ∈ evicted, ∀ e ∈ kept, old.lastActive ≤ e.lastActive

variable {registry : Registry} {settings : Settings} {k : Ticket} {n now cap : Nat}
  {table evicted kept : List Entry}

namespace Yields

theorem nothing (table : List Entry) : Yields 0 table [] table where
  count := rfl
  split := List.Perm.refl table
  order := List.Sublist.refl table
  least := fun _ h => absurd h List.not_mem_nil

theorem eq_of_zero (h : Yields 0 table evicted kept) : evicted = [] ∧ kept = table := by
  have hnone : evicted = [] := List.length_eq_zero_iff.mp h.count
  have hsplit := h.split
  rw [hnone, List.nil_append] at hsplit
  exact ⟨hnone, h.order.eq_of_length hsplit.length_eq.symm⟩

theorem step {e : Entry} {before behind : List Entry}
    (h : Yields n (before ++ behind) evicted kept)
    (hmin : ∀ other ∈ before ++ behind, e.lastActive ≤ other.lastActive) :
    Yields (n + 1) (before ++ e :: behind) (e :: evicted) kept where
  count := by rw [List.length_cons, h.count]
  split := calc
    (before ++ e :: behind).Perm (e :: (before ++ behind)) := List.perm_middle
    _ |>.Perm (e :: (evicted ++ kept)) := h.split.cons e
  order := h.order.trans ((List.sublist_cons_self e behind).append_left before)
  least := by
    intro old hold other hother
    rcases List.mem_cons.mp hold with rfl | hold
    · exact hmin other (h.order.subset hother)
    · exact h.least old hold other hother

end Yields

/-- The session to evict is an entry of the table, and no entry of the table was active earlier. -/
theorem oldest?_table (h : registry.oldest? = some k) :
    ∃ e before behind, registry.get? k = some e ∧ registry.table = before ++ e :: behind ∧
      (registry.unlist k).table = before ++ behind ∧
      ∀ other ∈ before ++ behind, e.lastActive ≤ other.lastActive := by
  obtain ⟨e, hk, hl, hmin⟩ := oldest?_spec h
  obtain ⟨before, behind, htable, hrest⟩ := table_unlist hk hl
  refine ⟨e, before, behind, hk, htable, hrest, fun other hother => ?_⟩
  have hmem : other ∈ registry.table := by
    rw [htable]
    exact ((List.sublist_cons_self e behind).append_left before).subset hother
  obtain ⟨hentry, hlisted⟩ := List.mem_filter.mp hmem
  obtain ⟨j, hj⟩ := List.getElem?_of_mem hentry
  exact hmin j other hj hlisted

/-- Eviction takes out those that were active least recently, and reports them. -/
theorem evict_yields (n : Nat) (registry : Registry) :
    ∃ evicted, Yields (min n registry.size) registry.table evicted (evict n registry).1.table ∧
      (evict n registry).2 = evicted.map fun e => .evicted e.session.id := by
  induction n generalizing registry with
  | zero => exact ⟨[], by simpa [evict] using Yields.nothing registry.table, rfl⟩
  | succ n ih =>
    simp only [evict]
    split
    · rename_i hnone
      have hempty := size_of_oldest?_eq_none hnone
      exact ⟨[], by simpa [hempty] using Yields.nothing registry.table, rfl⟩
    · rename_i k hk
      obtain ⟨e, before, behind, he, htable, hrest, hmin⟩ := oldest?_table hk
      obtain ⟨evicted, hyields, hevents⟩ := ih (registry.unlist k)
      have hid : registry.idOf k = e.session.id := by simp [idOf, he]
      have hsize : min (n + 1) registry.size = min n (registry.unlist k).size + 1 := by
        simp only [size, htable, hrest, List.length_append, List.length_cons]
        omega
      rw [hrest] at hyields
      refine ⟨e :: evicted, ?_, ?_⟩
      · rw [hsize, htable]
        exact hyields.step hmin
      · rw [hevents, hid]
        rfl

/-! ## Making room -/

/-- The entries of a table that were not idle for too long. -/
def lively (settings : Settings) (now : Nat) (table : List Entry) : List Entry :=
  table.filter (!·.isExpired settings.sessionTimeout now)

/-- Some entries are evicted from a table to make room for one more, and some are kept. -/
structure MakesRoom (settings : Settings) (now : Nat) (table evicted kept : List Entry) : Prop where
  /-- Where there is room, nothing happens. -/
  roomy : (∀ cap, settings.maxSessions = some cap → table.length < cap) →
    evicted = [] ∧ kept = table
  /-- Where the table is full, all go that were idle for too long, and of the others as many as are
  needed. -/
  full : ∀ cap, settings.maxSessions = some cap → cap ≤ table.length →
    Yields ((lively settings now table).length + 1 - cap) (lively settings now table) evicted kept

theorem full_or_roomy (settings : Settings) (n : Nat) :
    (∃ cap, settings.maxSessions = some cap ∧ cap ≤ n) ∨
      ∀ cap, settings.maxSessions = some cap → n < cap := by
  by_cases hfull : ∃ cap, settings.maxSessions = some cap ∧ cap ≤ n
  · exact Or.inl hfull
  · refine Or.inr fun cap hcap => ?_
    by_contra hle
    exact hfull ⟨cap, hcap, Nat.le_of_not_lt hle⟩

theorem lively_length_le (settings : Settings) (now : Nat) (table : List Entry) :
    (lively settings now table).length ≤ table.length :=
  List.length_filter_le _ table

theorem lively_length_lt (h : ∃ e ∈ table, e.isExpired settings.sessionTimeout now = true) :
    (lively settings now table).length < table.length := by
  obtain ⟨e, hmem, hx⟩ := h
  refine List.length_filter_lt_length_iff_exists.mpr ⟨e, hmem, ?_⟩
  simp [hx]

namespace MakesRoom

theorem spares (h : MakesRoom settings now table evicted kept)
    (hcap : settings.maxSessions = some cap) (hfull : cap ≤ table.length)
    (hlively : (lively settings now table).length < cap) :
    evicted = [] ∧ kept = lively settings now table := by
  have hyields := h.full cap hcap hfull
  have hnone : (lively settings now table).length + 1 - cap = 0 := by omega
  rw [hnone] at hyields
  exact hyields.eq_of_zero

theorem sublist (h : MakesRoom settings now table evicted kept) : kept.Sublist table := by
  rcases full_or_roomy settings table.length with ⟨cap, hcap, hle⟩ | hroom
  · exact (h.full cap hcap hle).order.trans List.filter_sublist
  · rw [(h.roomy hroom).2]

variable (hcapped : ∀ cap, settings.maxSessions = some cap → table.length ≤ cap)

include hcapped

/-- In a table that is not larger than allowed one entry has to go at most. -/
theorem few (h : MakesRoom settings now table evicted kept) : evicted.length ≤ 1 := by
  rcases full_or_roomy settings table.length with ⟨cap, hcap, hle⟩ | hroom
  · have hcount := (h.full cap hcap hle).count
    have hlively := lively_length_le settings now table
    have hsize := hcapped cap hcap
    omega
  · rw [(h.roomy hroom).1]
    exact Nat.zero_le 1

/-- In such a table an entry that was idle for too long spares all others. -/
theorem lastResort (h : MakesRoom settings now table evicted kept)
    (hx : ∃ e ∈ table, e.isExpired settings.sessionTimeout now = true) : evicted = [] := by
  rcases full_or_roomy settings table.length with ⟨cap, hcap, hle⟩ | hroom
  · have hlively := lively_length_lt hx
    have hsize := hcapped cap hcap
    exact (h.spares hcap hle (by omega)).1
  · exact (h.roomy hroom).1

end MakesRoom

/-- Room is made by those who should make it, and they are reported. -/
theorem makeRoom_exact (hpos : ∀ cap, settings.maxSessions = some cap → 1 ≤ cap) (now : Nat)
    (registry : Registry) :
    ∃ evicted, MakesRoom settings now registry.table evicted
        (registry.makeRoom settings now).1.table ∧
      (registry.makeRoom settings now).2 = evicted.map fun e => .evicted e.session.id := by
  cases hcap : settings.maxSessions with
  | none =>
    have hroom : registry.makeRoom settings now = (registry, []) := by simp [makeRoom, hcap]
    rw [hroom]
    exact ⟨[], ⟨fun _ => ⟨rfl, rfl⟩, fun cap h => by simp [hcap] at h⟩, rfl⟩
  | some cap =>
    by_cases hsize : registry.size < cap
    · have hroom : registry.makeRoom settings now = (registry, []) := by
        simp [makeRoom, hcap, hsize]
      rw [hroom]
      refine ⟨[], ⟨fun _ => ⟨rfl, rfl⟩, fun other h hle => ?_⟩, rfl⟩
      have hsame : cap = other := Option.some.inj (hcap.symm.trans h)
      subst hsame
      exact absurd hsize (Nat.not_lt.mpr hle)
    · let dropped := registry.dropExpired settings now
      have hroom : registry.makeRoom settings now = dropped.evict (dropped.size + 1 - cap) := by
        simp [makeRoom, hcap, hsize, dropped]
      have hlively : dropped.table = lively settings now registry.table :=
        registry.table_dropExpired settings now
      -- a cap of at least one never asks for more evictions than there are sessions
      have hmin : min (dropped.size + 1 - cap) dropped.size = dropped.size + 1 - cap := by
        have := hpos cap hcap
        omega
      obtain ⟨evicted, hyields, hevents⟩ := evict_yields (dropped.size + 1 - cap) dropped
      rw [hmin, hlively, size, hlively] at hyields
      rw [hroom]
      refine ⟨evicted, ⟨fun h => absurd (h cap hcap) hsize, fun other h hle => ?_⟩, hevents⟩
      have hsame : cap = other := Option.some.inj (hcap.symm.trans h)
      subst hsame
      rw [size, hlively]
      exact hyields

/-- Making room puts nothing into the table, whatever the cap is. -/
theorem table_makeRoom_sublist (settings : Settings) (now : Nat) (registry : Registry) :
    (registry.makeRoom settings now).1.table.Sublist registry.table := by
  unfold makeRoom
  split
  · exact List.Sublist.refl _
  · split
    · exact List.Sublist.refl _
    · obtain ⟨evicted, hyields, -⟩ := evict_yields _ (registry.dropExpired settings now)
      have hdrop : (registry.dropExpired settings now).table.Sublist registry.table := by
        rw [table_dropExpired]
        exact List.filter_sublist
      exact hyields.order.trans hdrop

end Registry

end EnclaveGate
