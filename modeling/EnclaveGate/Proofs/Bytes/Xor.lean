import EnclaveGate.Crypto.Cmac
import EnclaveGate.KeyTree

/-!
# Exclusive or of byte strings

Adding a string twice changes nothing, which is what counter mode rests on, and two strings of one
length are equal if no position differs, which is what the comparison of tags rests on. Adding one
block to different blocks leaves them different, as a block cipher needs it of its round keys.
-/

namespace EnclaveGate

theorem UInt8.xor_left_comm (a b c : UInt8) : a ^^^ (b ^^^ c) = b ^^^ (a ^^^ c) := by
  rw [← UInt8.xor_assoc, UInt8.xor_comm a b, UInt8.xor_assoc]

theorem UInt8.xor_cancel_left (a b : UInt8) : a ^^^ (a ^^^ b) = b := by
  rw [← UInt8.xor_assoc, UInt8.xor_self, UInt8.zero_xor]

namespace Block

variable {n : Nat} {a b : Block n}

@[simp] theorem getElem_xor (i : Nat) (hi : i < n) : (a.xor b)[i] = a[i] ^^^ b[i] := by
  simp [xor]

theorem xor_left_inj (c : Block n) : a.xor c = b.xor c ↔ a = b := by
  constructor
  · intro h
    apply Vector.ext
    intro i hi
    have hbyte : (a.xor c)[i] = (b.xor c)[i] := by rw [h]
    rwa [getElem_xor, getElem_xor, UInt8.xor_left_inj] at hbyte
  · rintro rfl
    rfl

theorem xor_right_inj (c : Block n) : c.xor a = c.xor b ↔ a = b := by
  constructor
  · intro h
    apply Vector.ext
    intro i hi
    have hbyte : (c.xor a)[i] = (c.xor b)[i] := by rw [h]
    rwa [getElem_xor, getElem_xor, UInt8.xor_right_inj] at hbyte
  · rintro rfl
    rfl

end Block

namespace Bytes

@[simp] theorem length_xor (a b : Bytes) : (xor a b).length = min a.length b.length := by
  simp [xor]

/-- A string that is added twice is gone. -/
theorem xor_xor_cancel {a b : Bytes} (h : a.length ≤ b.length) : xor (xor a b) b = a := by
  induction a generalizing b with
  | nil => simp [xor]
  | cons x a ih =>
    cases b with
    | nil => simp at h
    | cons y b =>
      have ht := ih (b := b) (by simpa using h)
      simp only [xor, List.zipWith_cons_cons, List.cons.injEq] at ht ⊢
      refine ⟨?_, ht⟩
      rw [UInt8.xor_assoc, UInt8.xor_self, UInt8.xor_zero]

/-! ## Differences -/

/-- Collected bits are zero if all bytes are. -/
theorem foldl_or_eq_zero_iff (bs : Bytes) (acc : UInt8) :
    bs.foldl (· ||| ·) acc = 0 ↔ acc = 0 ∧ ∀ b ∈ bs, b = 0 := by
  induction bs generalizing acc with
  | nil => simp
  | cons b bs ih =>
    rw [List.foldl_cons, ih, UInt8.or_eq_zero_iff]
    simp [and_assoc]

/-- Strings of one length that differ nowhere are equal. -/
theorem difference_eq_zero_iff {a b : Bytes} (h : a.length = b.length) :
    difference a b = 0 ↔ a = b := by
  rw [difference, foldl_or_eq_zero_iff]
  induction a generalizing b with
  | nil =>
    cases b with
    | nil => simp [xor]
    | cons y b => simp at h
  | cons x a ih =>
    cases b with
    | nil => simp at h
    | cons y b =>
      have ht := ih (b := b) (by simpa using h)
      simp only [true_and] at ht
      simp only [xor, List.zipWith_cons_cons, List.mem_cons, forall_eq_or_imp, true_and,
        List.cons.injEq, UInt8.xor_eq_zero_iff] at ht ⊢
      rw [ht]

/-- The comparison that does not stop at the first difference is equality. -/
@[simp] theorem constantTimeEq_iff (a b : Bytes) : constantTimeEq a b = true ↔ a = b := by
  simp only [constantTimeEq, Bool.and_eq_true, beq_iff_eq]
  constructor
  · rintro ⟨hl, hd⟩
    exact (difference_eq_zero_iff hl).mp hd
  · rintro rfl
    exact ⟨rfl, (difference_eq_zero_iff rfl).mpr rfl⟩

end Bytes

/-- A tag of any length is accepted if it is the authentication code. -/
theorem DerivedKey.verify_eq_true_iff (key : DerivedKey) (message tag : Bytes) :
    key.verify message tag = true ↔ tag = (key.mac message).toList := by
  rw [DerivedKey.verify, Cmac.verify, Bytes.constantTimeEq_iff, DerivedKey.mac]
  exact eq_comm

@[simp] theorem DerivedKey.verify_iff (key : DerivedKey) (message : Bytes) (tag : Block 16) :
    key.verify message tag.toList = true ↔ tag = key.mac message := by
  rw [DerivedKey.verify_eq_true_iff]
  constructor
  · exact Block.eq_of_toList_eq
  · rintro rfl
    rfl

end EnclaveGate
