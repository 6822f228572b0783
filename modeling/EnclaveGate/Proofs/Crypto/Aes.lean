import EnclaveGate.Crypto.Aes
import EnclaveGate.Proofs.Bytes.Xor
import Mathlib.Logic.Function.Basic
import Mathlib.Tactic.IntervalCases

/-!
# The cipher loses no block

Under any round keys the cipher maps different blocks to different blocks, since each of its four
layers does. Bytes are substituted by an involution of the field and an affine map that can be
undone. Rows are back in place after four rotations, and columns after they were mixed four times.
-/

namespace EnclaveGate

namespace Rijndael

/-- A property of all bytes, tried out on their numbers. -/
theorem forall_byte {p : UInt8 → Prop} (h : ∀ v : Fin 256, p (UInt8.ofNat v.val)) (b : UInt8) :
    p b := by
  have hb := h ⟨b.toNat, b.toNat_lt⟩
  rwa [UInt8.ofNat_toNat] at hb

/-! ## Substitution -/

/-- The affine map backwards. -/
def unaffine (b : UInt8) : UInt8 := rotl b 1 ^^^ rotl b 3 ^^^ rotl b 6 ^^^ 0x05

theorem unaffine_affine (b : UInt8) : unaffine (affine b) = b :=
  forall_byte (p := fun b => unaffine (affine b) = b) (by decide +kernel) b

theorem affine_injective : Function.Injective affine :=
  Function.LeftInverse.injective unaffine_affine

/-! Inverses are tried out on numbers, which are multiplied faster than bytes. -/

/-- The product with `x`, on numbers. -/
def natDouble (a : Nat) : Nat := (2 * a) ^^^ (a / 128 * 283)

/-- The product of `a` with the lowest `n` coefficients of `b`, on numbers. -/
def natMul : Nat → Nat → Nat → Nat
  | 0, _, _ => 0
  | n + 1, a, b => (b % 2 * a) ^^^ natMul n (natDouble a) (b / 2)

/-- The inverse in the field, on numbers. -/
def natInverse (b : Nat) : Nat :=
  let b2 := natMul 8 b b
  let b4 := natMul 8 b2 b2
  let b8 := natMul 8 b4 b4
  let b16 := natMul 8 b8 b8
  let b32 := natMul 8 b16 b16
  let b64 := natMul 8 b32 b32
  natMul 8 b2 (natMul 8 b4 (natMul 8 b8 (natMul 8 b16 (natMul 8 b32
    (natMul 8 b64 (natMul 8 b64 b64))))))

theorem toNat_double (b : UInt8) : (double b).toNat = natDouble b.toNat :=
  forall_byte (p := fun b => (double b).toNat = natDouble b.toNat) (by decide +kernel) b

theorem toNat_mulLow (n : Nat) (a b : UInt8) :
    (mulLow n a b).toNat = natMul n a.toNat b.toNat := by
  induction n generalizing a b with
  | zero => rfl
  | succ n ih =>
    have hhalf : (b >>> 1).toNat = b.toNat / 2 := by simp [Nat.shiftRight_eq_div_pow]
    have hbit : (b &&& 1).toNat = b.toNat % 2 := by simp [Nat.and_one_is_mod]
    have hlow : (if b &&& 1 = 0 then 0 else a).toNat = b.toNat % 2 * a.toNat := by
      by_cases h : b &&& 1 = 0
      · rw [if_pos h, ← hbit, h]
        simp
      · have hne : (b &&& 1).toNat ≠ 0 := fun h0 => h (UInt8.toNat_inj.mp h0)
        have hone : b.toNat % 2 = 1 := by omega
        rw [if_neg h, hone, one_mul]
    rw [mulLow, natMul, UInt8.toNat_xor, hlow, ih, toNat_double, hhalf]

theorem toNat_inverse (b : UInt8) : (inverse b).toNat = natInverse b.toNat := by
  simp only [inverse, natInverse, mul, toNat_mulLow]

theorem natInverse_natInverse : ∀ b : Fin 256, natInverse (natInverse b.val) = b.val := by
  decide +kernel

theorem inverse_inverse (b : UInt8) : inverse (inverse b) = b := by
  rw [← UInt8.toNat_inj, toNat_inverse, toNat_inverse]
  exact natInverse_natInverse ⟨b.toNat, b.toNat_lt⟩

theorem substitute_injective : Function.Injective substitute := by
  intro a b h
  rw [substitute_eq, substitute_eq] at h
  have hinverse : inverse a = inverse b := affine_injective h
  rw [← inverse_inverse a, hinverse, inverse_inverse]

/-! ## The product with `x` -/

theorem topBit_cases (b : UInt8) : b &&& 0x80 = 0 ∨ b &&& 0x80 = 0x80 :=
  forall_byte (p := fun b => b &&& 0x80 = 0 ∨ b &&& 0x80 = 0x80) (by decide +kernel) b

theorem double_xor (a b : UInt8) : double (a ^^^ b) = double a ^^^ double b := by
  have htop : (a ^^^ b) &&& 0x80 = (a &&& 0x80) ^^^ (b &&& 0x80) := by
    rw [← UInt8.toNat_inj]
    simp [Nat.and_xor_distrib_right]
  unfold double
  rw [htop, UInt8.shiftLeft_xor]
  -- where both top bits are set, the sum has none, and the two reductions cancel each other
  rcases topBit_cases a with ha | ha <;> rcases topBit_cases b with hb | hb <;>
    simp [ha, hb, UInt8.xor_assoc, UInt8.xor_comm, UInt8.xor_left_comm]

end Rijndael

namespace Aes

open Rijndael

/-! ## Layers -/

theorem subBytes_injective : Function.Injective subBytes := by
  intro s t h
  apply Vector.ext
  intro i hi
  have hbyte : (subBytes s)[i] = (subBytes t)[i] := by rw [h]
  simp only [subBytes, Vector.getElem_map] at hbyte
  exact substitute_injective hbyte

/-- After four rotations every row is where it was. -/
theorem shiftRows_four (s : Block 16) : shiftRows (shiftRows (shiftRows (shiftRows s))) = s := by
  apply Vector.ext
  intro i hi
  interval_cases i <;> simp [shiftRows]

theorem shiftRows_injective : Function.Injective shiftRows := by
  intro s t h
  rw [← shiftRows_four s, h, shiftRows_four]

theorem mixByte_mixByte (a b c d : UInt8) :
    mixByte (mixByte a b c d) (mixByte b c d a) (mixByte c d a b) (mixByte d a b c) =
      a ^^^ double (double (a ^^^ c)) := by
  simp only [mixByte, double_xor]
  simp only [UInt8.xor_assoc, UInt8.xor_comm, UInt8.xor_left_comm, UInt8.xor_cancel_left]

theorem getElem_mixColumns_mixColumns (s : Block 16) (i : Nat) (hi : i < 16) :
    (mixColumns (mixColumns s))[i] =
      s[i] ^^^ double (double (s[i] ^^^ s[i / 4 * 4 + (i + 2) % 4])) := by
  interval_cases i <;> simp [mixColumns, mixByte_mixByte]

/-- Mixed four times, every column is as it was. -/
theorem mixColumns_four (s : Block 16) :
    mixColumns (mixColumns (mixColumns (mixColumns s))) = s := by
  apply Vector.ext
  intro i hi
  have hother : i / 4 * 4 + (i + 2) % 4 < 16 := by omega
  have hback : (i / 4 * 4 + (i + 2) % 4) / 4 * 4 + (i / 4 * 4 + (i + 2) % 4 + 2) % 4 = i := by
    omega
  -- mixed twice, a byte and the one two rows below get the same added, which leaves their sum as it
  -- was; so mixed twice more they get it added again
  rw [getElem_mixColumns_mixColumns _ i hi, getElem_mixColumns_mixColumns _ i hi,
    getElem_mixColumns_mixColumns _ _ hother]
  simp only [hback]
  generalize s[i] = a
  generalize s[i / 4 * 4 + (i + 2) % 4] = b
  simp only [double_xor]
  simp only [UInt8.xor_assoc, UInt8.xor_comm, UInt8.xor_left_comm, UInt8.xor_self,
    UInt8.xor_zero]

theorem mixColumns_injective : Function.Injective mixColumns := by
  intro s t h
  rw [← mixColumns_four s, h, mixColumns_four]

/-! ## Rounds -/

theorem round_injective (k : Block 16) : Function.Injective (round · k) := by
  intro s t h
  have hmixed := (Block.xor_left_inj k).mp h
  have hshifted := mixColumns_injective hmixed
  exact subBytes_injective (shiftRows_injective hshifted)

theorem rounds_injective (keys : List (Block 16)) :
    Function.Injective fun s => keys.foldl round s := by
  induction keys with
  | nil => exact Function.injective_id
  | cons k keys ih => exact ih.comp (round_injective k)

/-- The cipher maps different blocks to different blocks. -/
theorem encipher_injective (keys : RoundKeys) : Function.Injective (encipher keys) := by
  intro s t h
  have hlast := (Block.xor_left_inj keys.last).mp h
  have hrounds := subBytes_injective (shiftRows_injective hlast)
  have hfirst := rounds_injective keys.middle hrounds
  exact (Block.xor_left_inj keys.first).mp hfirst

end Aes

end EnclaveGate
