import EnclaveGate.Proofs.Wire.Canonical
import Mathlib.Data.Nat.Digits.Defs

/-!
# Coordinates keep their numbers

Two positional notations meet in a coordinate. The natural form is read from its first byte on, and
every further byte moves what was read up by one place; in the wire form the first byte has the lowest
place. A coordinate is written exactly if its number is below `2 ^ 256`, and then its wire form is the
only one with the same number, however many zero bytes stood in front. Pairs of numbers are written
and read back likewise.
-/

namespace EnclaveGate

namespace Bytes

/-- The number with the given bytes, read from the most significant one on. -/
def horner (bs : Bytes) : Nat := bs.foldl (fun v b => 256 * v + b.toNat) 0

/-- What was read before moves up by as many places as bytes follow. -/
theorem foldl_horner (bs : Bytes) (v : Nat) :
    bs.foldl (fun v b => 256 * v + b.toNat) v = bound bs.length * v + natBE bs := by
  -- from zero alone the induction would not go through: the first byte is what the rest starts from
  induction bs generalizing v with
  | nil => simp [bound, natBE, natLE]
  | cons b bs ih =>
    have hplaces : bound bs.length * (256 * v) = 256 * bound bs.length * v := by
      rw [← Nat.mul_assoc, Nat.mul_comm (bound bs.length) 256]
    rw [List.foldl_cons, ih, natBE_cons, List.length_cons, bound, Nat.mul_add, hplaces]
    omega

theorem horner_eq_natBE (bs : Bytes) : horner bs = natBE bs := by
  rw [horner, foldl_horner, Nat.mul_zero, Nat.zero_add]

theorem ofDigits_eq_natLE (bs : Bytes) : Nat.ofDigits 256 (bs.map UInt8.toNat) = natLE bs := by
  induction bs with
  | nil => rfl
  | cons b bs ih => rw [List.map_cons, Nat.ofDigits_cons, ih, natLE]

theorem bound_32 : bound 32 = 2 ^ 256 := by
  rw [bound_eq]
  norm_num

theorem natBE_replicate_zero_append (n : Nat) (bs : Bytes) :
    natBE (List.replicate n 0 ++ bs) = natBE bs := by
  simp only [natBE, List.reverse_append, List.reverse_replicate, natLE_append,
    natLE_replicate_zero, Nat.mul_zero, Nat.add_zero]

end Bytes

namespace Wire

/-! ## Coordinates -/

variable {natural : Bytes} {wire a b : Block 32} {x y : Nat}

/-- Where no block holds the number, it is too large. -/
theorem exists_encodeCoordinate_iff :
    (∃ wire, encodeCoordinate natural = .ok wire) ↔ Bytes.natBE natural < Bytes.bound 32 := by
  constructor
  · rintro ⟨wire, h⟩
    rw [← encodeCoordinate_eq_ok_iff.mp h]
    exact wire.natLE_lt
  · intro h
    exact ⟨_, encodeCoordinate_eq h⟩

/-- Coordinates with the same number have the same wire form, or none. -/
theorem encodeCoordinate_congr {other : Bytes} (h : Bytes.natBE natural = Bytes.natBE other) :
    encodeCoordinate natural = encodeCoordinate other := by
  by_cases hfits : Bytes.natBE natural < Bytes.bound 32
  · rw [encodeCoordinate_eq hfits, encodeCoordinate_eq (h ▸ hfits), h]
  · have hlarge := Nat.le_of_not_lt hfits
    rw [encodeCoordinate_eq_error hlarge, encodeCoordinate_eq_error (h ▸ hlarge)]

/-! ## Pairs of numbers -/

theorem encodePoint_eq_error (h : ¬ (x < Bytes.bound 32 ∧ y < Bytes.bound 32)) :
    encodePoint x y = .error (.crypto .coordinateTooLarge) := by
  unfold encodePoint
  by_cases hx : x < Bytes.bound 32
  · have hfirst := encodeCoordinate_eq ((natBE_naturalBytes x).symm ▸ hx)
    have hy : Bytes.bound 32 ≤ Bytes.natBE (naturalBytes y) := by
      rw [natBE_naturalBytes]
      omega
    rw [hfirst, encodeCoordinate_eq_error hy]
    rfl
  · have hlarge : Bytes.bound 32 ≤ Bytes.natBE (naturalBytes x) := by
      rw [natBE_naturalBytes]
      omega
    rw [encodeCoordinate_eq_error hlarge]
    rfl

/-- Numbers are kept on the way to the wire and back. -/
structure KeepsNumbers : Prop where
  /-- A coordinate is written exactly if its number fits into 32 bytes. -/
  coordinate_written : ∀ natural : Bytes,
    (∃ wire, encodeCoordinate natural = .ok wire) ↔ Bytes.horner natural < 2 ^ 256
  /-- Any other coordinate is refused for its size. -/
  coordinate_refused : ∀ natural : Bytes, 2 ^ 256 ≤ Bytes.horner natural →
    encodeCoordinate natural = .error (.crypto .coordinateTooLarge)
  /-- The wire form is the one that holds the number, lowest place first. -/
  coordinate_kept : ∀ (natural : Bytes) (wire : Block 32),
    encodeCoordinate natural = .ok wire ↔
      Nat.ofDigits 256 (wire.toList.map UInt8.toNat) = Bytes.horner natural
  /-- Zero bytes in front make no difference. -/
  coordinate_padded : ∀ (m n : Nat) (natural : Bytes),
    encodeCoordinate (List.replicate m 0 ++ natural) =
      encodeCoordinate (List.replicate n 0 ++ natural)
  /-- Reading keeps the number as well. -/
  coordinate_read : ∀ wire : Block 32,
    Bytes.horner (decodeCoordinate wire).toList = Nat.ofDigits 256 (wire.toList.map UInt8.toNat)
  /-- A wire form that was read is written again as it was. -/
  coordinate_rewritten : ∀ wire : Block 32,
    encodeCoordinate (decodeCoordinate wire).toList = .ok wire
  /-- A pair is written exactly if both numbers fit. -/
  point_written : ∀ x y : Nat,
    (∃ a b, encodePoint x y = .ok (a, b)) ↔ x < 2 ^ 256 ∧ y < 2 ^ 256
  /-- Any other pair is refused for its size. -/
  point_refused : ∀ x y : Nat, ¬ (x < 2 ^ 256 ∧ y < 2 ^ 256) →
    encodePoint x y = .error (.crypto .coordinateTooLarge)
  /-- What is written is read back, and no other form is read as the same pair. -/
  point_reread : ∀ (x y : Nat) (a b : Block 32),
    encodePoint x y = .ok (a, b) ↔ decodePoint a b = (x, y)
  /-- A pair of wire forms that was read is written again as it was. -/
  point_rewritten : ∀ a b : Block 32,
    encodePoint (decodePoint a b).1 (decodePoint a b).2 = .ok (a, b)

/-- All coordinates and all pairs keep their numbers. -/
theorem coordinates_keep_numbers : KeepsNumbers := by
  constructor
  case coordinate_written =>
    intro natural
    rw [Bytes.horner_eq_natBE, ← Bytes.bound_32]
    exact exists_encodeCoordinate_iff
  case coordinate_refused =>
    intro natural h
    rw [Bytes.horner_eq_natBE, ← Bytes.bound_32] at h
    exact encodeCoordinate_eq_error h
  case coordinate_kept =>
    intro natural wire
    rw [Bytes.horner_eq_natBE, Bytes.ofDigits_eq_natLE]
    exact encodeCoordinate_eq_ok_iff
  case coordinate_padded =>
    intro m n natural
    apply encodeCoordinate_congr
    rw [Bytes.natBE_replicate_zero_append, Bytes.natBE_replicate_zero_append]
  case coordinate_read =>
    intro wire
    rw [Bytes.horner_eq_natBE, Bytes.ofDigits_eq_natLE]
    exact natBE_decodeCoordinate wire
  case coordinate_rewritten =>
    intro wire
    rw [encodeCoordinate_eq_ok_iff]
    exact (natBE_decodeCoordinate wire).symm
  case point_written =>
    intro x y
    rw [← Bytes.bound_32]
    constructor
    · rintro ⟨a, b, h⟩
      obtain ⟨rfl, rfl⟩ := encodePoint_eq_ok_iff.mp h
      exact ⟨a.natLE_lt, b.natLE_lt⟩
    · rintro ⟨hx, hy⟩
      exact ⟨_, _, encodePoint_eq hx hy⟩
  case point_refused =>
    intro x y h
    rw [← Bytes.bound_32] at h
    exact encodePoint_eq_error h
  case point_reread =>
    intro x y a b
    rw [encodePoint_eq_ok_iff, decodePoint_eq_iff]
  case point_rewritten =>
    intro a b
    rw [encodePoint_eq_ok_iff]
    exact decodePoint_eq_iff.mp rfl

end Wire

end EnclaveGate
