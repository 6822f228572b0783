import EnclaveGate.Proofs.Registry.Removal

/-!
# One entry among others

An id addresses at most one entry. Putting another entry with the same id in its place leaves all
entries with other ids as they were, and changes at different ids can be made in any order.
-/

namespace EnclaveGate

namespace Registry

/-- The entry that an id addresses. -/
def lookup? (registry : Registry) (id : SessionId) : Option Entry :=
  (registry.find? id).bind registry.get?

/-- Puts another entry in the place of the one that an id addresses. -/
def put (registry : Registry) (id : SessionId) (entry : Option Entry) : Registry :=
  match registry.find? id, entry with
  | some k, some e => registry.update k fun _ => e
  | _, _ => registry

/-- Two registries differ in entries with one id only. -/
def AgreeBut (id : SessionId) (r r' : Registry) : Prop :=
  ∀ (k : Ticket) (e : Entry), e.session.id ≠ id → (r'.get? k = some e ↔ r.get? k = some e)

variable {r r' : Registry} {id other : SessionId} {k j : Ticket} {e : Entry}

/-! ## The entry that an id addresses -/

/-- Registries with the same entries are equal. -/
theorem ext_get? (h : ∀ k, r.get? k = r'.get? k) : r = r' := by
  rcases r with ⟨entries⟩
  rcases r' with ⟨entries'⟩
  exact congrArg Registry.mk (List.ext_getElem? h)

/-- An id addresses the entry that is listed under it. -/
theorem lookup?_eq_some_iff (h : r.Unambiguous) :
    r.lookup? id = some e ↔
      ∃ k, r.get? k = some e ∧ e.isListed = true ∧ e.session.id = id := by
  unfold lookup?
  constructor
  · intro he
    obtain ⟨k, hf, hk⟩ := Option.bind_eq_some_iff.mp he
    obtain ⟨found, hfound, hl, hid⟩ := lists_of_find? hf
    have hsame : found = e := Option.some.inj (hfound.symm.trans hk)
    subst hsame
    exact ⟨k, hk, hl, hid⟩
  · rintro ⟨k, hk, hl, hid⟩
    rw [(find?_eq_some_iff h).mpr ⟨e, hk, hl, hid⟩]
    exact hk

/-- An id addresses the entry of the table that has it. -/
theorem lookup?_eq_some_iff_mem (h : r.Unambiguous) :
    r.lookup? id = some e ↔ e ∈ r.table ∧ e.session.id = id := by
  rw [lookup?_eq_some_iff h, table, List.mem_filter]
  constructor
  · rintro ⟨k, hk, hl, hid⟩
    exact ⟨⟨List.mem_of_getElem? hk, hl⟩, hid⟩
  · rintro ⟨⟨hmem, hl⟩, hid⟩
    obtain ⟨k, hk⟩ := List.mem_iff_getElem?.mp hmem
    exact ⟨k, hk, hl, hid⟩

/-- An id addresses an entry if it can be found. -/
theorem lookup?_of_find? (hf : r.find? id = some k) (hk : r.get? k = some e) :
    r.lookup? id = some e := by
  rw [lookup?, hf]
  exact hk

theorem find?_of_lookup? (h : r.lookup? id = some e) :
    ∃ k, r.find? id = some k ∧ r.get? k = some e ∧ e.isListed = true ∧ e.session.id = id := by
  obtain ⟨k, hf, hk⟩ := Option.bind_eq_some_iff.mp h
  obtain ⟨found, hfound, hl, hid⟩ := lists_of_find? hf
  have hsame : found = e := Option.some.inj (hfound.symm.trans hk)
  subst hsame
  exact ⟨k, hf, hk, hl, hid⟩

theorem find?_eq_none_of_lookup? (h : r.lookup? id = none) : r.find? id = none := by
  cases hf : r.find? id with
  | none => rfl
  | some k =>
    obtain ⟨e, hk, -⟩ := lists_of_find? hf
    rw [lookup?_of_find? hf hk] at h
    cases h

/-! ## Other entries -/

namespace AgreeBut

theorem refl (id : SessionId) (r : Registry) : AgreeBut id r r := fun _ _ _ => Iff.rfl

/-- A change of one entry that keeps its id leaves entries with other ids alone. -/
theorem of_get? (hne : ∀ j, j ≠ k → r'.get? j = r.get? j)
    (h : ∀ e, r.get? k = some e → e.session.id = id)
    (h' : ∀ e, r'.get? k = some e → e.session.id = id) : AgreeBut id r r' := by
  intro j e hid
  by_cases hj : j = k
  · subst hj
    constructor
    · exact fun hk => absurd (h' e hk) hid
    · exact fun hk => absurd (h e hk) hid
  · rw [hne j hj]

theorem update {f : Entry → Entry}
    (h : ∀ e, r.get? k = some e → e.session.id = id ∧ (f e).session.id = id) :
    AgreeBut id r (r.update k f) := by
  refine of_get? (k := k) (fun j hj => ?_) (fun e he => (h e he).1) fun e' he' => ?_
  · rw [get?_update, if_neg (Ne.symm hj)]
  · rw [get?_update, if_pos rfl] at he'
    obtain ⟨e, he, rfl⟩ := Option.map_eq_some_iff.mp he'
    exact (h e he).2

/-- What is listed under another id is listed in both registries. -/
theorem lists_iff (h : AgreeBut id r r') (hne : other ≠ id) : r'.Lists k other ↔ r.Lists k other := by
  constructor
  · rintro ⟨e, hk, hl, rfl⟩
    exact ⟨e, (h k e hne).mp hk, hl, rfl⟩
  · rintro ⟨e, hk, hl, rfl⟩
    exact ⟨e, (h k e hne).mpr hk, hl, rfl⟩

theorem find?_eq (h : AgreeBut id r r') (hu : r.Unambiguous) (hu' : r'.Unambiguous)
    (hne : other ≠ id) : r'.find? other = r.find? other := by
  apply Option.ext
  intro k
  rw [find?_eq_some_iff hu, find?_eq_some_iff hu', h.lists_iff hne]

/-- Another id addresses the same entry in both registries. -/
theorem lookup?_eq (h : AgreeBut id r r') (hu : r.Unambiguous) (hu' : r'.Unambiguous)
    (hne : other ≠ id) : r'.lookup? other = r.lookup? other := by
  apply Option.ext
  intro e
  rw [lookup?_eq_some_iff hu, lookup?_eq_some_iff hu']
  constructor
  · rintro ⟨k, hk, hl, rfl⟩
    exact ⟨k, (h k e hne).mp hk, hl, rfl⟩
  · rintro ⟨k, hk, hl, rfl⟩
    exact ⟨k, (h k e hne).mpr hk, hl, rfl⟩

end AgreeBut

/-! ## Putting an entry in the place of another one -/

theorem put_of_find? (hf : r.find? id = some k) (e : Entry) :
    r.put id (some e) = r.update k fun _ => e := by
  simp only [put, hf]

theorem put_of_find?_eq_none (hf : r.find? id = none) (entry : Option Entry) :
    r.put id entry = r := by
  simp only [put, hf]

@[simp] theorem put_none (r : Registry) (id : SessionId) : r.put id none = r := by
  unfold put
  split
  · rename_i h
    cases h
  · rfl

variable {x y : Option Entry}

/-- Putting an entry with the same id changes no entry with another id. -/
theorem agreeBut_put (hid : ∀ e, x = some e → e.session.id = id) : AgreeBut id r (r.put id x) := by
  cases x with
  | none =>
    rw [put_none]
    exact .refl id r
  | some e' =>
    cases hf : r.find? id with
    | none =>
      rw [put_of_find?_eq_none hf]
      exact .refl id r
    | some k =>
      rw [put_of_find? hf]
      refine .update fun e hk => ⟨?_, hid e' rfl⟩
      obtain ⟨old, hold, -, hids⟩ := lists_of_find? hf
      rw [hk] at hold
      cases hold
      exact hids

/-- Putting an entry with the same id lists nothing anew. -/
theorem lists_of_put (hid : ∀ e, x = some e → e.session.id = id)
    (h : (r.put id x).Lists j other) : r.Lists j other := by
  cases x with
  | none => rwa [put_none] at h
  | some e =>
    cases hf : r.find? id with
    | none => rwa [put_of_find?_eq_none hf] at h
    | some k =>
      obtain ⟨found, hj, hl, rfl⟩ := h
      have hk := lists_of_find? hf
      by_cases hjk : k = j
      · subst hjk
        obtain ⟨old, hold, -⟩ := hk
        rw [put_of_find? hf, get?_update, if_pos rfl, hold] at hj
        cases hj
        rw [hid e rfl]
        exact lists_of_find? hf
      · rw [put_of_find? hf, get?_update, if_neg hjk] at hj
        exact ⟨found, hj, hl, rfl⟩

theorem Unambiguous.put (h : r.Unambiguous) (hid : ∀ e, x = some e → e.session.id = id) :
    (r.put id x).Unambiguous :=
  h.mono fun _ _ => lists_of_put hid

/-- The entry that was put is the one that is addressed, if it can be. -/
theorem lookup?_put (h : r.Unambiguous) (hid : ∀ e, x = some e → e.session.id = id)
    (hx : x.isSome = (r.lookup? id).isSome) :
    (r.put id x).lookup? id = x.filter (·.isListed) := by
  cases x with
  | none =>
    rw [put_none]
    exact Option.isNone_iff_eq_none.mp (Option.isSome_eq_false_iff.mp hx.symm)
  | some e' =>
    obtain ⟨e, he⟩ := Option.isSome_iff_exists.mp hx.symm
    obtain ⟨k, hf, hk, hl, hold⟩ := find?_of_lookup? he
    have hput : (r.put id (some e')).get? k = some e' := by
      rw [put_of_find? hf, get?_update, if_pos rfl, hk]
      rfl
    apply Option.ext
    intro found
    rw [lookup?_eq_some_iff (h.put hid), Option.filter_eq_some_iff]
    constructor
    · rintro ⟨j, hj, hlisted, hfound⟩
      have hjk : j = k :=
        h j k id (lists_of_put hid ⟨found, hj, hlisted, hfound⟩) ⟨e, hk, hl, hold⟩
      subst hjk
      rw [hput] at hj
      exact ⟨hj, hlisted⟩
    · rintro ⟨hj, hlisted⟩
      cases hj
      exact ⟨k, hput, hlisted, hid e' rfl⟩

/-- Changes of different entries can be made in any order. -/
theorem update_comm (h : k ≠ j) (f g : Entry → Entry) :
    (r.update k f).update j g = (r.update j g).update k f := by
  apply ext_get?
  intro i
  simp only [get?_update]
  by_cases hki : k = i
  · subst hki
    simp [Ne.symm h]
  · simp [hki]

/-- Entries with different ids can be put in any order. -/
theorem put_comm (h : r.Unambiguous) (hne : id ≠ other)
    (hx : ∀ e, x = some e → e.session.id = id) (hy : ∀ e, y = some e → e.session.id = other) :
    (r.put id x).put other y = (r.put other y).put id x := by
  cases x with
  | none => simp
  | some e =>
    cases y with
    | none => simp
    | some e' =>
      have here := (agreeBut_put (r := r) hy).find?_eq h (h.put hy) hne
      have there := (agreeBut_put (r := r) hx).find?_eq h (h.put hx) (Ne.symm hne)
      cases hf : r.find? id with
      | none => rw [put_of_find?_eq_none hf, put_of_find?_eq_none (here.trans hf)]
      | some k =>
        cases hf' : r.find? other with
        | none => rw [put_of_find?_eq_none hf', put_of_find?_eq_none (there.trans hf')]
        | some j =>
          rw [put_of_find? (there.trans hf'), put_of_find? (here.trans hf), put_of_find? hf,
            put_of_find? hf']
          refine update_comm ?_ _ _
          -- one entry has one id
          rintro rfl
          obtain ⟨found, hk, -, hfound⟩ := lists_of_find? hf
          obtain ⟨found', hk', -, hfound'⟩ := lists_of_find? hf'
          rw [hk] at hk'
          cases hk'
          exact hne (hfound.symm.trans hfound')

end Registry

end EnclaveGate
