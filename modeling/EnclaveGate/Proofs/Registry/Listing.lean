import EnclaveGate.Proofs.Registry.Sessions

/-!
# Which sessions can be addressed

A session is listed under its id until it is removed. As long as no two sessions are listed under
one id, looking an id up finds the session that is listed under it, whatever its age, and the
registry contains an id exactly if the session listed under it was not idle for too long. Purges and
admissions remove a listed session only if it was idle for too long.
-/

namespace EnclaveGate

namespace Registry

/-- A session is listed under an id. -/
def Lists (registry : Registry) (k : Ticket) (id : SessionId) : Prop :=
  ∃ e, registry.get? k = some e ∧ e.isListed = true ∧ e.session.id = id

/-- A session was idle for too long. -/
def Expired (registry : Registry) (settings : Settings) (now : Nat) (k : Ticket) : Prop :=
  ∃ e, registry.get? k = some e ∧ e.isExpired settings.sessionTimeout now = true

/-- No two sessions are listed under one id. -/
def Unambiguous (registry : Registry) : Prop :=
  ∀ (j k : Ticket) (id : SessionId), registry.Lists j id → registry.Lists k id → j = k

variable {registry : Registry} {settings : Settings} {k : Ticket} {id : SessionId}

/-! ## Looking up -/

theorem lists_of_find? (h : registry.find? id = some k) : registry.Lists k id := by
  obtain ⟨hl, he, -⟩ := List.findIdx?_eq_some_iff_getElem.mp h
  simp only [Bool.and_eq_true, beq_iff_eq] at he
  exact ⟨_, List.getElem?_eq_getElem hl, he⟩

theorem not_lists_of_find? (h : registry.find? id = none) (k : Ticket) : ¬ registry.Lists k id := by
  rintro ⟨e, hg, hl, hid⟩
  have hall := List.findIdx?_eq_none_iff.mp h e (List.mem_of_getElem? hg)
  simp [hl, hid] at hall

/-- No session is listed under an id that is not in use. -/
theorem not_lists_of_hasId (h : registry.hasId id = false) (k : Ticket) : ¬ registry.Lists k id := by
  rw [hasId, Option.isSome_eq_false_iff, Option.isNone_iff_eq_none] at h
  exact not_lists_of_find? h k

/-- Looking an id up finds the session that is listed under it. -/
theorem find?_eq_some_iff (h : registry.Unambiguous) :
    registry.find? id = some k ↔ registry.Lists k id := by
  constructor
  · exact lists_of_find?
  · intro hk
    cases hf : registry.find? id with
    | none => exact absurd hk (not_lists_of_find? hf k)
    | some j => rw [h j k id (lists_of_find? hf) hk]

/-- An id is contained if the session that is listed under it was not idle for too long. -/
theorem contains_iff (h : registry.Unambiguous) (now : Nat) :
    registry.contains settings now id = true ↔
      ∃ k, registry.Lists k id ∧ ¬ registry.Expired settings now k := by
  unfold contains
  cases hf : registry.find? id with
  | none =>
    simp only [Option.bind_none, Bool.false_eq_true, false_iff, not_exists, not_and]
    exact fun k hk => absurd hk (not_lists_of_find? hf k)
  | some j =>
    obtain ⟨e, hg, hl, hid⟩ := lists_of_find? hf
    simp only [Option.bind_some, hg, Bool.not_eq_true']
    constructor
    · intro he
      refine ⟨j, ⟨e, hg, hl, hid⟩, ?_⟩
      rintro ⟨e', hg', he'⟩
      rw [hg] at hg'
      cases hg'
      rw [he] at he'
      cases he'
    · rintro ⟨k, hk, hne⟩
      rw [← h j k id ⟨e, hg, hl, hid⟩ hk] at hne
      cases he : e.isExpired settings.sessionTimeout now with
      | false => rfl
      | true => exact absurd ⟨e, hg, he⟩ hne

/-! ## Changing one session -/

/-- A change that keeps listing and id keeps what is listed. -/
theorem lists_update_iff {j : Ticket} {f : Entry → Entry}
    (hl : ∀ e, (f e).isListed = e.isListed) (hid : ∀ e, (f e).session.id = e.session.id) :
    (registry.update j f).Lists k id ↔ registry.Lists k id := by
  unfold Lists
  rw [get?_update]
  split
  · simp only [Option.map_eq_some_iff]
    constructor
    · rintro ⟨-, ⟨e, hg, rfl⟩, hle, hide⟩
      exact ⟨e, hg, hl e ▸ hle, hid e ▸ hide⟩
    · rintro ⟨e, hg, hle, hide⟩
      exact ⟨f e, ⟨e, hg, rfl⟩, (hl e).symm ▸ hle, (hid e).symm ▸ hide⟩
  · rfl

@[simp] theorem lists_touch (j : Ticket) (now : Nat) :
    (registry.touch j now).Lists k id ↔ registry.Lists k id :=
  lists_update_iff (fun _ => rfl) fun _ => rfl

/-- A session that is replaced by one with its id stays listed as it was. -/
theorem lists_store {j : Ticket} {session : Session} {now : Nat}
    (h : ∀ e, registry.get? j = some e → session.id = e.session.id) :
    (registry.store j session now).Lists k id ↔ registry.Lists k id := by
  unfold Lists store
  rw [get?_update]
  by_cases hjk : j = k
  · subst hjk
    simp only [if_true, Option.map_eq_some_iff]
    constructor
    · rintro ⟨-, ⟨e, hg, rfl⟩, hl, hid⟩
      exact ⟨e, hg, hl, h e hg ▸ hid⟩
    · rintro ⟨e, hg, hl, hid⟩
      exact ⟨_, ⟨e, hg, rfl⟩, hl, (h e hg).trans hid⟩
  · rw [if_neg hjk]

@[simp] theorem lists_unlist (j : Ticket) :
    (registry.unlist j).Lists k id ↔ k ≠ j ∧ registry.Lists k id := by
  unfold Lists unlist
  rw [get?_update]
  by_cases hjk : j = k
  · subst hjk
    simp
  · rw [if_neg hjk]
    simp [Ne.symm hjk]

theorem get?_dropExpired (registry : Registry) (settings : Settings) (now : Nat) (k : Ticket) :
    (registry.dropExpired settings now).get? k = (registry.get? k).map fun e =>
      if e.isExpired settings.sessionTimeout now then { e with isListed := false } else e := by
  simp [get?, dropExpired]

/-- Removing what was idle for too long keeps all else. -/
@[simp] theorem lists_dropExpired (now : Nat) :
    (registry.dropExpired settings now).Lists k id ↔
      registry.Lists k id ∧ ¬ registry.Expired settings now k := by
  unfold Lists Expired
  rw [get?_dropExpired]
  cases hg : registry.get? k with
  | none => simp
  | some e => cases he : e.isExpired settings.sessionTimeout now <;> simp [he]

theorem lists_add {session : Session} {now : Nat} :
    (registry.add session now).Lists k id ↔
      registry.Lists k id ∨ k = registry.entries.length ∧ session.id = id := by
  unfold Lists add get?
  simp only [List.getElem?_append]
  split
  · rename_i hl
    have hne : k ≠ registry.entries.length := Nat.ne_of_lt hl
    simp [hne]
  · rename_i hl
    rw [List.getElem?_eq_none (Nat.le_of_not_lt hl)]
    by_cases hk : k = registry.entries.length
    · subst hk
      simp
    · have hd : k - registry.entries.length ≠ 0 := by
        intro h0
        exact hk (Nat.le_antisymm (Nat.sub_eq_zero_iff_le.mp h0) (Nat.le_of_not_lt hl))
      obtain ⟨n, hn⟩ := Nat.exists_eq_succ_of_ne_zero hd
      simp [hk, hn]

/-! ## Unambiguous ids -/

/-- What is listed nothing anew is unambiguous. -/
theorem Unambiguous.mono (h : registry.Unambiguous) {registry' : Registry}
    (hl : ∀ (k : Ticket) (id : SessionId), registry'.Lists k id → registry.Lists k id) :
    registry'.Unambiguous :=
  fun j k id hj hk => h j k id (hl j id hj) (hl k id hk)

/-- A session may be added under an id that is not in use. -/
theorem Unambiguous.add (h : registry.Unambiguous) (session : Session) (now : Nat)
    (hfresh : ∀ k, ¬ registry.Lists k session.id) : (registry.add session now).Unambiguous := by
  intro j k id hj hk
  rcases lists_add.mp hj with hj | ⟨rfl, rfl⟩
  · rcases lists_add.mp hk with hk | ⟨rfl, rfl⟩
    · exact h j k id hj hk
    · exact absurd hj (hfresh j)
  · rcases lists_add.mp hk with hk | ⟨rfl, -⟩
    · exact absurd hk (hfresh k)
    · rfl

/-- No two sessions in the table have the same id. -/
theorem Unambiguous.nodup_table (h : registry.Unambiguous) :
    (registry.table.map (·.session.id)).Nodup := by
  rw [List.Nodup, List.pairwise_map, table, List.pairwise_filter, List.pairwise_iff_getElem]
  intro i j hi hj hij listed listed' heq
  have hsame : i = j := h i j _ ⟨_, List.getElem?_eq_getElem hi, listed, rfl⟩
    ⟨_, List.getElem?_eq_getElem hj, listed', heq.symm⟩
  omega

/-! ## Activity -/

/-- A session was active at a time or later. -/
def ActiveSince (registry : Registry) (k : Ticket) (time : Nat) : Prop :=
  ∃ e, registry.get? k = some e ∧ time ≤ e.lastActive

/-- A session that was active recently enough is not expired. -/
theorem ActiveSince.not_expired {time now : Nat} (h : registry.ActiveSince k time)
    (hlimit : ∀ limit, settings.sessionTimeout = some limit → now ≤ time + limit) :
    ¬ registry.Expired settings now k := by
  obtain ⟨e, hg, ht⟩ := h
  rintro ⟨e', hg', hx⟩
  rw [hg] at hg'
  cases hg'
  unfold Entry.isExpired at hx
  split at hx
  · cases hx
  · rename_i limit hs
    have := hlimit limit hs
    simp only [decide_eq_true_eq] at hx
    omega

end Registry

end EnclaveGate
