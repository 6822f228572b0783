import EnclaveGate.Proofs.Registry.Listing
import Mathlib.Data.List.Forall2

/-!
# What becomes of entries

Everything that a registry does, except for opening a session, keeps the number and the ids of its
entries. An entry may leave the table but not come back, and its session is either left as it was or
active now. These facts are one relation between registries, which every operation satisfies.
-/

namespace EnclaveGate

/-- What may become of an entry at a time. -/
structure Entry.Ages (now : Nat) (e e' : Entry) : Prop where
  /-- The session keeps its id. -/
  id_eq : e'.session.id = e.session.id
  /-- Nothing is listed anew. -/
  listed : e'.isListed = true → e.isListed = true
  /-- The session was left alone or is active now. -/
  active : e'.lastActive = e.lastActive ∨ e'.lastActive = now

namespace Entry.Ages

variable {now : Nat} {e e' e'' : Entry}

theorem refl (now : Nat) (e : Entry) : e.Ages now e := ⟨rfl, id, Or.inl rfl⟩

/-- An entry may leave the table. -/
theorem unlisted (now : Nat) (e : Entry) : e.Ages now { e with isListed := false } where
  id_eq := rfl
  listed := fun h => by cases h
  active := Or.inl rfl

theorem trans (h : e.Ages now e') (h' : e'.Ages now e'') : e.Ages now e'' where
  id_eq := h'.id_eq.trans h.id_eq
  listed := h.listed ∘ h'.listed
  active := by
    rcases h'.active with ha | ha
    · rw [ha]
      exact h.active
    · exact Or.inr ha

/-- What was active at a time or later still was. -/
theorem le_lastActive (h : e.Ages now e') {time : Nat} (he : time ≤ e.lastActive)
    (hn : time ≤ now) : time ≤ e'.lastActive := by
  rcases h.active with ha | ha <;> omega

theorem lastActive_le (h : e.Ages now e') (hn : e.lastActive ≤ now) : e'.lastActive ≤ now := by
  rcases h.active with ha | ha <;> omega

end Entry.Ages

namespace Registry

/-- What may become of a registry at a time while no session is opened. -/
def Ages (now : Nat) (registry registry' : Registry) : Prop :=
  List.Forall₂ (Entry.Ages now) registry.entries registry'.entries

namespace Ages

variable {now : Nat} {r r' r'' : Registry} {k : Ticket}

/-- A registry ages if each of its entries does. -/
theorem of_get? (hl : r'.entries.length = r.entries.length)
    (he : ∀ (k : Ticket) (e e' : Entry), r.get? k = some e → r'.get? k = some e' → e.Ages now e') :
    r.Ages now r' :=
  List.forall₂_iff_get.mpr ⟨hl.symm, fun k h h' => he k _ _ (List.getElem?_eq_getElem h)
    (List.getElem?_eq_getElem h')⟩

theorem length_eq (h : r.Ages now r') : r'.entries.length = r.entries.length :=
  (List.Forall₂.length_eq h).symm

/-- An entry comes from an entry with the same ticket. -/
theorem get?_right (h : r.Ages now r') {e' : Entry} (hk : r'.get? k = some e') :
    ∃ e, r.get? k = some e ∧ e.Ages now e' := by
  obtain ⟨hl, rfl⟩ := List.getElem?_eq_some_iff.mp hk
  have hl' : k < r.entries.length := h.length_eq ▸ hl
  exact ⟨_, List.getElem?_eq_getElem hl', (List.forall₂_iff_get.mp h).2 k hl' hl⟩

/-- An entry becomes an entry with the same ticket. -/
theorem get?_left (h : r.Ages now r') {e : Entry} (hk : r.get? k = some e) :
    ∃ e', r'.get? k = some e' ∧ e.Ages now e' := by
  obtain ⟨hl, rfl⟩ := List.getElem?_eq_some_iff.mp hk
  have hl' : k < r'.entries.length := h.length_eq.symm ▸ hl
  exact ⟨_, List.getElem?_eq_getElem hl', (List.forall₂_iff_get.mp h).2 k hl hl'⟩

theorem refl (now : Nat) (r : Registry) : r.Ages now r :=
  List.forall₂_same.mpr fun e _ => .refl now e

theorem trans (h : r.Ages now r') (h' : r'.Ages now r'') : r.Ages now r'' := by
  refine .of_get? (h'.length_eq.trans h.length_eq) fun k e e'' hk hk'' => ?_
  obtain ⟨e', hk', hb⟩ := h'.get?_right hk''
  obtain ⟨e₀, hk₀, ha⟩ := h.get?_right hk'
  rw [hk] at hk₀
  cases hk₀
  exact ha.trans hb

theorem lists (h : r.Ages now r') {id : SessionId} (hk : r'.Lists k id) : r.Lists k id := by
  obtain ⟨e', he', hl, hid⟩ := hk
  obtain ⟨e, he, ha⟩ := h.get?_right he'
  exact ⟨e, he, ha.listed hl, ha.id_eq.symm.trans hid⟩

theorem ids_eq (h : r.Ages now r') :
    r'.entries.map (·.session.id) = r.entries.map (·.session.id) := by
  rcases r with ⟨es⟩
  rcases r' with ⟨es'⟩
  simp only [Ages] at h ⊢
  induction h with
  | nil => rfl
  | cons he _ ih => rw [List.map_cons, List.map_cons, he.id_eq, ih]

theorem size_le (h : r.Ages now r') : r'.size ≤ r.size := by
  rcases r with ⟨es⟩
  rcases r' with ⟨es'⟩
  simp only [Ages, size, table] at h ⊢
  induction h with
  | nil => exact Nat.le_refl _
  | @cons e e' _ _ he _ ih =>
    simp only [List.filter_cons]
    cases hl' : e'.isListed with
    | false =>
      refine Nat.le_trans ih ?_
      split <;> simp
    | true => simpa [he.listed hl'] using ih

/-! ## Operations -/

theorem update {f : Entry → Entry} (hf : ∀ e, r.get? k = some e → e.Ages now (f e)) :
    r.Ages now (r.update k f) := by
  refine .of_get? (by simp [Registry.update]) fun j e e' hj hj' => ?_
  rw [get?_update] at hj'
  by_cases hkj : k = j
  · subst hkj
    rw [if_pos rfl, hj] at hj'
    cases hj'
    exact hf e hj
  · rw [if_neg hkj, hj] at hj'
    cases hj'
    exact .refl now e

theorem touch (r : Registry) (k : Ticket) (now : Nat) : r.Ages now (r.touch k now) :=
  .update fun _ _ => ⟨rfl, id, Or.inr rfl⟩

theorem store {session : Session} (h : ∀ e, r.get? k = some e → session.id = e.session.id) :
    r.Ages now (r.store k session now) :=
  .update fun e he => ⟨h e he, id, Or.inr rfl⟩

theorem unlist (r : Registry) (k : Ticket) (now : Nat) : r.Ages now (r.unlist k) :=
  .update fun e _ => .unlisted now e

theorem dropExpired (r : Registry) (settings : Settings) (t now : Nat) :
    r.Ages now (r.dropExpired settings t) := by
  refine .of_get? (by simp [Registry.dropExpired]) fun j e e' hj hj' => ?_
  rw [get?_dropExpired, hj] at hj'
  cases hj'
  dsimp only
  split
  · exact .unlisted now e
  · exact .refl now e

theorem evict (n : Nat) (r : Registry) (now : Nat) : r.Ages now (Registry.evict n r).1 := by
  induction n generalizing r with
  | zero => exact .refl now r
  | succ n ih =>
    simp only [Registry.evict]
    split
    · exact .refl now r
    · exact (Ages.unlist r _ now).trans (ih _)

theorem makeRoom (r : Registry) (settings : Settings) (t now : Nat) :
    r.Ages now (r.makeRoom settings t).1 := by
  simp only [Registry.makeRoom]
  split
  · exact .refl now r
  · split
    · exact .refl now r
    · exact (Ages.dropExpired r settings t now).trans (Ages.evict _ _ now)

end Ages

theorem get?_add_left {r : Registry} {k : Ticket} {e : Entry} (h : r.get? k = some e)
    (session : Session) (now : Nat) : (r.add session now).get? k = some e := by
  obtain ⟨hl, -⟩ := List.getElem?_eq_some_iff.mp h
  simpa only [add, get?, List.getElem?_append_left hl] using h

/-- An entry was there before a session was added, or is the one that was added. -/
theorem get?_add {r : Registry} {session : Session} {now : Nat} {k : Ticket} {e : Entry}
    (h : (r.add session now).get? k = some e) : r.get? k = some e ∨ e = ⟨session, now, true⟩ := by
  simp only [add, get?, List.getElem?_append] at h
  split at h
  · exact Or.inl h
  · exact Or.inr (List.mem_singleton.mp (List.mem_of_getElem? h))

end Registry

end EnclaveGate
