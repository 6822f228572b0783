import EnclaveGate.Proofs.Registry.Others

/-!
# Registries that differ in idle sessions

Two registries are alike if they keep the same entries, except that one of them may still list
sessions that were idle for too long where the other one does not. No operation tells them apart: what
is addressed and what is evicted is the same, whether sessions were purged before or not.
-/

namespace EnclaveGate

/-- Two entries are the same, or differ in whether a session is listed that was idle for too long. -/
structure Entry.Alike (settings : Settings) (now : Nat) (e e' : Entry) : Prop where
  /-- The sessions are the same. -/
  session : e'.session = e.session
  /-- They were last active at the same time. -/
  lastActive : e'.lastActive = e.lastActive
  /-- Both are listed or none is, unless they were idle for too long. -/
  listed : e'.isListed = e.isListed ∨ e.isExpired settings.sessionTimeout now = true

namespace Entry.Alike

variable {settings : Settings} {now now' : Nat} {e e' e'' : Entry}

theorem refl (settings : Settings) (now : Nat) (e : Entry) : e.Alike settings now e :=
  ⟨rfl, rfl, Or.inl rfl⟩

theorem isExpired_eq (h : e.Alike settings now e') (limit : Option Nat) (time : Nat) :
    e'.isExpired limit time = e.isExpired limit time := by
  unfold isExpired
  rw [h.lastActive]

theorem symm (h : e.Alike settings now e') : e'.Alike settings now e where
  session := h.session.symm
  lastActive := h.lastActive.symm
  listed := by
    rcases h.listed with hl | hx
    · exact Or.inl hl.symm
    · exact Or.inr ((h.isExpired_eq _ _).trans hx)

theorem trans (h : e.Alike settings now e') (h' : e'.Alike settings now e'') :
    e.Alike settings now e'' where
  session := h'.session.trans h.session
  lastActive := h'.lastActive.trans h.lastActive
  listed := by
    rcases h.listed with hl | hx
    · rcases h'.listed with hl' | hx'
      · exact Or.inl (hl'.trans hl)
      · exact Or.inr ((h.isExpired_eq _ _).symm.trans hx')
    · exact Or.inr hx

/-- What was idle for too long still is later. -/
theorem later (h : e.Alike settings now e') (hn : now ≤ now') : e.Alike settings now' e' where
  session := h.session
  lastActive := h.lastActive
  listed := by
    rcases h.listed with hl | hx
    · exact Or.inl hl
    · obtain ⟨ms, hms, hlt⟩ := Entry.isExpired_iff.mp hx
      exact Or.inr (Entry.isExpired_iff.mpr ⟨ms, hms, by omega⟩)

/-- Entries that were not idle for too long are equal. -/
theorem eq_of_not_isExpired (h : e.Alike settings now e')
    (hx : e.isExpired settings.sessionTimeout now = false) : e' = e := by
  rcases e with ⟨session, lastActive, isListed⟩
  rcases e' with ⟨session', lastActive', isListed'⟩
  rcases h.listed with hl | hx'
  · exact Entry.mk.injEq .. ▸ ⟨h.session, h.lastActive, hl⟩
  · rw [hx] at hx'
    cases hx'

/-- An entry that was idle for too long may leave the table. -/
theorem unlisted (hx : e.isExpired settings.sessionTimeout now = true) :
    e.Alike settings now { e with isListed := false } :=
  ⟨rfl, rfl, Or.inr hx⟩

end Entry.Alike

namespace Registry

/-- Two registries differ only in whether sessions are listed that were idle for too long. -/
structure Alike (settings : Settings) (now : Nat) (r r' : Registry) : Prop where
  /-- They have equally many entries. -/
  length : r'.entries.length = r.entries.length
  /-- Entries with the same ticket are alike. -/
  entry : ∀ (k : Ticket) (e e' : Entry), r.get? k = some e → r'.get? k = some e' →
    e.Alike settings now e'

namespace Alike

variable {settings : Settings} {now now' : Nat} {r r' r'' : Registry} {k : Ticket} {e : Entry}
  {id : SessionId}

theorem refl (settings : Settings) (now : Nat) (r : Registry) : r.Alike settings now r where
  length := rfl
  entry := by
    intro k e e' hk hk'
    rw [hk] at hk'
    cases hk'
    exact .refl settings now e

theorem symm (h : r.Alike settings now r') : r'.Alike settings now r where
  length := h.length.symm
  entry := fun k e e' hk hk' => (h.entry k e' e hk' hk).symm

theorem get?_eq_none (h : r.Alike settings now r') (hk : r.get? k = none) :
    r'.get? k = none := by
  rw [get?, List.getElem?_eq_none_iff] at hk ⊢
  rw [h.length]
  exact hk

/-- Every entry is like the one with the same ticket. -/
theorem get? (h : r.Alike settings now r') (hk : r.get? k = some e) :
    ∃ e', r'.get? k = some e' ∧ e.Alike settings now e' := by
  cases hk' : r'.get? k with
  | none =>
    rw [h.symm.get?_eq_none hk'] at hk
    cases hk
  | some e' => exact ⟨e', rfl, h.entry k e e' hk hk'⟩

theorem trans (h : r.Alike settings now r') (h' : r'.Alike settings now r'') :
    r.Alike settings now r'' where
  length := h'.length.trans h.length
  entry := by
    intro k e e'' hk hk''
    obtain ⟨e', hk', he⟩ := h.get? hk
    exact he.trans (h'.entry k e' e'' hk' hk'')

theorem later (h : r.Alike settings now r') (hn : now ≤ now') : r.Alike settings now' r' where
  length := h.length
  entry := fun k e e' hk hk' => (h.entry k e e' hk hk').later hn

/-! ## What is addressed -/

/-- A session that was not idle for too long has the same entry in both registries. -/
theorem get?_of_not_isExpired (h : r.Alike settings now r') (hk : r.get? k = some e)
    (hx : e.isExpired settings.sessionTimeout now = false) : r'.get? k = some e := by
  obtain ⟨e', hk', he⟩ := h.get? hk
  rw [hk', he.eq_of_not_isExpired hx]

/-- An id that addresses a session that was not idle for too long addresses it in both registries. -/
theorem find?_of_not_isExpired (h : r.Alike settings now r') (hu' : r'.Unambiguous)
    (hf : r.find? id = some k) (hk : r.get? k = some e)
    (hx : e.isExpired settings.sessionTimeout now = false) : r'.find? id = some k := by
  obtain ⟨found, hfound, hl, hid⟩ := lists_of_find? hf
  rw [hk] at hfound
  cases hfound
  exact (find?_eq_some_iff hu').mpr ⟨e, h.get?_of_not_isExpired hk hx, hl, hid⟩

theorem lookup?_of_not_isExpired (h : r.Alike settings now r') (hu' : r'.Unambiguous)
    (he : r.lookup? id = some e) (hx : e.isExpired settings.sessionTimeout now = false) :
    r'.lookup? id = some e := by
  obtain ⟨k, hf, hk, -, -⟩ := find?_of_lookup? he
  exact lookup?_of_find? (h.find?_of_not_isExpired hu' hf hk hx) (h.get?_of_not_isExpired hk hx)

/-- The same ids are contained. -/
theorem contains_eq (h : r.Alike settings now r') (hu : r.Unambiguous) (hu' : r'.Unambiguous)
    (id : SessionId) : r'.contains settings now id = r.contains settings now id := by
  have go : ∀ {r r' : Registry}, r.Alike settings now r' → r'.Unambiguous →
      r.contains settings now id = true → r'.contains settings now id = true := by
    intro r r' h hu' hc
    unfold contains at hc ⊢
    split at hc
    · rename_i e he
      rw [Bool.not_eq_true'] at hc
      have he' : (r'.find? id).bind r'.get? = some e := h.lookup?_of_not_isExpired hu' he hc
      simp only [he', hc, Bool.not_false]
    · cases hc
  rw [Bool.eq_iff_iff]
  exact ⟨go h.symm hu, go h hu'⟩

/-- An id is in use in both registries or in none, unless it addresses a session that was idle for too
long. -/
theorem hasId_eq (h : r.Alike settings now r') (hu : r.Unambiguous) (hu' : r'.Unambiguous)
    (hx : ∀ e, r.lookup? id = some e → e.isExpired settings.sessionTimeout now = false)
    (hx' : ∀ e, r'.lookup? id = some e → e.isExpired settings.sessionTimeout now = false) :
    r'.hasId id = r.hasId id := by
  have go : ∀ {r r' : Registry}, r.Alike settings now r' → r'.Unambiguous →
      (∀ e, r.lookup? id = some e → e.isExpired settings.sessionTimeout now = false) →
      r.hasId id = true → r'.hasId id = true := by
    intro r r' h hu' hx hid
    obtain ⟨k, hf⟩ := Option.isSome_iff_exists.mp hid
    obtain ⟨e, hk, -⟩ := lists_of_find? hf
    have hlive := hx e (lookup?_of_find? hf hk)
    rw [hasId, h.find?_of_not_isExpired hu' hf hk hlive]
    rfl
  rw [Bool.eq_iff_iff]
  exact ⟨go h.symm hu hx', go h hu' hx⟩

/-! ## What is dropped -/

/-- When what was idle for too long is removed, the registry is like the one before. -/
theorem dropExpired (settings : Settings) (now : Nat) (r : Registry) :
    r.Alike settings now (r.dropExpired settings now) where
  length := by simp [Registry.dropExpired]
  entry := by
    intro k e e' hk hk'
    rw [get?_dropExpired, hk] at hk'
    cases hk'
    dsimp only
    split
    · rename_i hx
      exact .unlisted hx
    · exact .refl settings now e

/-- Once what was idle for too long is removed, nothing differs any more. -/
theorem dropExpired_eq (h : r.Alike settings now r') :
    r'.dropExpired settings now = r.dropExpired settings now := by
  apply ext_get?
  intro k
  rw [get?_dropExpired, get?_dropExpired]
  cases hk : r.get? k with
  | none => rw [h.get?_eq_none hk]
  | some e =>
    obtain ⟨e', hk', he⟩ := h.get? hk
    rw [hk', Option.map_some, Option.map_some, he.isExpired_eq]
    split
    · rw [he.session, he.lastActive]
    · rename_i hx
      rw [he.eq_of_not_isExpired (by simpa using hx)]

/-- The sessions that are listed and were not idle for too long are the same. -/
theorem live_eq (h : r.Alike settings now r') :
    r'.table.filter (!·.isExpired settings.sessionTimeout now) =
      r.table.filter (!·.isExpired settings.sessionTimeout now) := by
  rw [← table_dropExpired, ← table_dropExpired, h.dropExpired_eq]

/-! ## What changes both -/

/-- The same entry may be put in the same place. -/
theorem update (h : r.Alike settings now r') (k : Ticket) (e : Entry) :
    (r.update k fun _ => e).Alike settings now (r'.update k fun _ => e) where
  length := by simp [Registry.update, h.length]
  entry := by
    intro j old old' hj hj'
    rw [get?_update] at hj hj'
    by_cases hkj : k = j
    · rw [if_pos hkj] at hj hj'
      obtain ⟨-, -, rfl⟩ := Option.map_eq_some_iff.mp hj
      obtain ⟨-, -, rfl⟩ := Option.map_eq_some_iff.mp hj'
      exact .refl settings now e
    · rw [if_neg hkj] at hj hj'
      exact h.entry j old old' hj hj'

/-- An entry that was idle for too long may leave the table. -/
theorem unlisted (hk : r.get? k = some e) (hx : e.isExpired settings.sessionTimeout now = true) :
    r.Alike settings now (r.update k fun _ => { e with isListed := false }) where
  length := by simp [Registry.update]
  entry := by
    intro j old old' hj hj'
    rw [get?_update, hj] at hj'
    by_cases hkj : k = j
    · subst hkj
      rw [hk] at hj
      cases hj
      rw [if_pos rfl] at hj'
      cases hj'
      exact .unlisted hx
    · rw [if_neg hkj] at hj'
      cases hj'
      exact .refl settings now old

/-- The same session may be added. -/
theorem add (h : r.Alike settings now r') (session : Session) (time : Nat) :
    (r.add session time).Alike settings now (r'.add session time) where
  length := by simp [Registry.add, h.length]
  entry := by
    intro k e e' hk hk'
    simp only [Registry.add, Registry.get?, List.getElem?_append, h.length] at hk hk'
    split at hk
    · rename_i hl
      rw [if_pos hl] at hk'
      exact h.entry k e e' hk hk'
    · rename_i hl
      rw [if_neg hl, hk] at hk'
      cases hk'
      exact .refl settings now e

/-! ## Making room -/

/-- Where there is room without the sessions that were idle for too long, no other one is evicted. -/
theorem makeRoom_of_full {cap : Nat} (hcap : settings.maxSessions = some cap)
    (hfull : ¬ r.size < cap) (hroom : (r.dropExpired settings now).size < cap) :
    r.makeRoom settings now = (r.dropExpired settings now, []) := by
  have hzero : (r.dropExpired settings now).size + 1 - cap = 0 := by omega
  simp only [makeRoom, hcap, if_neg hfull, hzero, evict]

theorem size_dropExpired_le (r : Registry) (settings : Settings) (now : Nat) :
    (r.dropExpired settings now).size ≤ r.size := by
  rw [size, size, table_dropExpired]
  exact List.length_filter_le ..

/-- Room is made in the same way: the same sessions are evicted, in the same order. -/
theorem makeRoom (h : r.Alike settings now r') :
    (r.makeRoom settings now).1.Alike settings now (r'.makeRoom settings now).1 ∧
    (r'.makeRoom settings now).2 = (r.makeRoom settings now).2 := by
  cases hcap : settings.maxSessions with
  | none =>
    simp only [Registry.makeRoom, hcap]
    exact ⟨h, trivial⟩
  | some cap =>
    -- a registry that has room also has it without the sessions that were idle for too long
    have uneven : ∀ {r r' : Registry}, r.Alike settings now r' → r.size < cap →
        ¬ r'.size < cap → (r.makeRoom settings now).1.Alike settings now
          (r'.makeRoom settings now).1 ∧
        (r'.makeRoom settings now).2 = (r.makeRoom settings now).2 := by
      intro r r' h hroom hfull
      have hdrop : (r'.dropExpired settings now).size < cap := by
        rw [h.dropExpired_eq]
        exact Nat.lt_of_le_of_lt (size_dropExpired_le r settings now) hroom
      have hr : r.makeRoom settings now = (r, []) := by
        simp only [Registry.makeRoom, hcap, if_pos hroom]
      rw [makeRoom_of_full hcap hfull hdrop, hr, h.dropExpired_eq]
      exact ⟨dropExpired settings now r, rfl⟩
    by_cases hroom : r.size < cap
    · by_cases hroom' : r'.size < cap
      · simp only [Registry.makeRoom, hcap, if_pos hroom, if_pos hroom']
        exact ⟨h, trivial⟩
      · exact uneven h hroom hroom'
    · by_cases hroom' : r'.size < cap
      · obtain ⟨hm, he⟩ := uneven h.symm hroom' hroom
        exact ⟨hm.symm, he.symm⟩
      · simp only [Registry.makeRoom, hcap, if_neg hroom, if_neg hroom', h.dropExpired_eq]
        exact ⟨.refl settings now _, trivial⟩

end Alike

end Registry

end EnclaveGate
