import EnclaveGate.Proofs.Registry.Aging

/-!
# Eviction and the cap

The session to evict is a listed one that was not active later than any other listed one; there is
one unless the table is empty. Each eviction takes one session off the table and reports its id. So
making room leaves room, and what is gone afterwards was idle for too long or is reported.
-/

namespace EnclaveGate

namespace Registry

variable {registry : Registry} {settings : Settings} {k : Ticket} {id : SessionId}

/-! ## The session to evict -/

/-- The session to evict is listed, and no listed session was active earlier. -/
theorem oldest?_spec (h : registry.oldest? = some k) :
    ∃ e, registry.get? k = some e ∧ e.isListed = true ∧
      ∀ (j : Ticket) (e' : Entry), registry.get? j = some e' → e'.isListed = true →
        e.lastActive ≤ e'.lastActive := by
  unfold oldest? at h
  split at h
  · cases h
  · rename_i least hmin
    obtain ⟨hl, he, -⟩ := List.findIdx?_eq_some_iff_getElem.mp h
    simp only [Bool.and_eq_true, beq_iff_eq] at he
    refine ⟨_, List.getElem?_eq_getElem hl, he.1, fun j e' hj hlisted => ?_⟩
    have hmem : e'.lastActive ∈ registry.table.map (·.lastActive) :=
      List.mem_map_of_mem (List.mem_filter.mpr ⟨List.mem_of_getElem? hj, hlisted⟩)
    rw [he.2]
    exact (List.min?_eq_some_iff.mp hmin).2 _ hmem

/-- A table that is not empty has a session to evict. -/
theorem oldest?_isSome (h : 0 < registry.size) : registry.oldest?.isSome = true := by
  unfold oldest?
  split
  · rename_i hmin
    rw [List.min?_eq_none_iff, List.map_eq_nil_iff] at hmin
    simp [size, hmin] at h
  · rename_i least hmin
    have hmem := (List.min?_eq_some_iff.mp hmin).1
    obtain ⟨e, he, rfl⟩ := List.mem_map.mp hmem
    obtain ⟨hmem, hlisted⟩ := List.mem_filter.mp he
    rw [List.findIdx?_isSome, List.any_eq_true]
    exact ⟨e, hmem, by simp [hlisted]⟩

theorem size_of_oldest?_eq_none (h : registry.oldest? = none) : registry.size = 0 := by
  by_contra hne
  have hsome := oldest?_isSome (Nat.pos_of_ne_zero hne)
  rw [h] at hsome
  cases hsome

/-- A listed session that is removed leaves the others in the table as they are. -/
theorem table_unlist {e : Entry} (hk : registry.get? k = some e) (hl : e.isListed = true) :
    ∃ before behind, registry.table = before ++ e :: behind ∧
      (registry.unlist k).table = before ++ behind := by
  rcases registry with ⟨entries⟩
  simp only [table, unlist, update, get?] at hk ⊢
  induction entries generalizing k with
  | nil => cases hk
  | cons head rest ih =>
    cases k with
    | zero =>
      cases hk
      exact ⟨[], rest.filter (·.isListed), by simp [hl], by simp⟩
    | succ k =>
      obtain ⟨before, behind, htable, hrest⟩ := ih hk
      cases hlisted : head.isListed with
      | true => exact ⟨head :: before, behind, by simp [hlisted, htable], by simp [hlisted, hrest]⟩
      | false => exact ⟨before, behind, by simp [hlisted, htable], by simp [hlisted, hrest]⟩

theorem size_unlist {e : Entry} (hk : registry.get? k = some e) (hl : e.isListed = true) :
    (registry.unlist k).size + 1 = registry.size := by
  obtain ⟨before, behind, htable, hrest⟩ := table_unlist hk hl
  simp only [size, htable, hrest, List.length_append, List.length_cons]
  omega

/-- Eviction takes away as many sessions as it is asked to, or all. -/
theorem size_evict (n : Nat) (registry : Registry) :
    (evict n registry).1.size = registry.size - n := by
  induction n generalizing registry with
  | zero => rfl
  | succ n ih =>
    simp only [evict]
    split
    · rename_i hnone
      have hempty := size_of_oldest?_eq_none hnone
      show registry.size = registry.size - (n + 1)
      omega
    · rename_i k hk
      obtain ⟨e, he, hl, -⟩ := oldest?_spec hk
      have hsize := size_unlist he hl
      dsimp only
      rw [ih]
      omega

/-- Making room leaves room for one more session. -/
theorem size_makeRoom_lt {cap : Nat} (hcap : settings.maxSessions = some cap) (hpos : 1 ≤ cap)
    (now : Nat) (registry : Registry) : (registry.makeRoom settings now).1.size < cap := by
  simp only [makeRoom, hcap]
  split
  · assumption
  · rw [size_evict]
    omega

/-! ## What is evicted -/

theorem idOf_of_lists (h : registry.Lists k id) : registry.idOf k = id := by
  obtain ⟨e, he, -, rfl⟩ := h
  simp [idOf, he]

theorem lists_oldest? (h : registry.oldest? = some k) : registry.Lists k (registry.idOf k) := by
  obtain ⟨e, he, hl, -⟩ := oldest?_spec h
  exact ⟨e, he, hl, by simp [idOf, he]⟩

/-- What is evicted is what is reported. -/
theorem lists_evict_iff {registry : Registry} (h : registry.Unambiguous) (n : Nat) :
    (evict n registry).1.Lists k id ↔
      registry.Lists k id ∧ Event.evicted id ∉ (evict n registry).2 := by
  induction n generalizing registry with
  | zero => simp [evict]
  | succ n ih =>
    simp only [evict]
    split
    · simp
    · rename_i j hj
      have hunlist : (registry.unlist j).Unambiguous :=
        h.mono fun _ _ hk => ((lists_unlist j).mp hk).2
      have hlists := lists_oldest? hj
      dsimp only
      rw [ih hunlist, lists_unlist, List.mem_cons, not_or, Event.evicted.injEq]
      constructor
      · rintro ⟨⟨hne, hk⟩, hrest⟩
        refine ⟨hk, ?_, hrest⟩
        rintro rfl
        exact hne (h _ _ _ hk hlists)
      · rintro ⟨hk, hid, hrest⟩
        refine ⟨⟨?_, hk⟩, hrest⟩
        rintro rfl
        exact hid (idOf_of_lists hk).symm

/-- What has to make room was idle for too long, while the table was full, or is reported. -/
theorem lists_makeRoom_iff (h : registry.Unambiguous) (now : Nat) :
    (registry.makeRoom settings now).1.Lists k id ↔
      registry.Lists k id ∧
      ¬ ((∃ cap, settings.maxSessions = some cap ∧ cap ≤ registry.size) ∧
        registry.Expired settings now k) ∧
      Event.evicted id ∉ (registry.makeRoom settings now).2 := by
  cases hcap : settings.maxSessions with
  | none => simp [makeRoom, hcap]
  | some cap =>
    simp only [makeRoom, hcap, Option.some.injEq, exists_eq_left']
    by_cases hroom : registry.size < cap
    · simp [hroom, Nat.not_le.mpr hroom]
    · have hdrop : (registry.dropExpired settings now).Unambiguous :=
        h.mono fun _ _ hk => ((lists_dropExpired now).mp hk).1
      rw [if_neg hroom, lists_evict_iff hdrop, lists_dropExpired]
      simp only [Nat.not_lt.mp hroom, true_and, and_assoc]

/-- Sessions are evicted only where the table is full. -/
theorem full_of_evicted {now : Nat} (h : Event.evicted id ∈ (registry.makeRoom settings now).2) :
    ∃ cap, settings.maxSessions = some cap ∧ cap ≤ registry.size := by
  simp only [makeRoom] at h
  split at h
  · cases h
  · rename_i cap hcap
    split at h
    · cases h
    · rename_i hfull
      exact ⟨cap, hcap, Nat.not_lt.mp hfull⟩

end Registry

end EnclaveGate
