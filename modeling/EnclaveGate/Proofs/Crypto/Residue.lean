import EnclaveGate.Crypto.Modular
import Mathlib.FieldTheory.Finite.Basic

/-!
# Residues as elements of a ring

The residues modulo a number are the elements of its ring of residues. Repeated squaring is the
power there, and modulo a prime the power with which residues are inverted is the inverse.
-/

namespace EnclaveGate.Modular

variable {m : Nat}

/-- A residue as an element of the ring. -/
def residue (a : Fin m) : ZMod m := (a.val : ZMod m)

theorem residue_injective : Function.Injective (residue : Fin m → ZMod m) := by
  intro a b h
  have hm : a.val % m = b.val % m := (ZMod.natCast_eq_natCast_iff' a.val b.val m).mp h
  rw [Nat.mod_eq_of_lt a.isLt, Nat.mod_eq_of_lt b.isLt] at hm
  exact Fin.ext hm

theorem residue_inj {a b : Fin m} : residue a = residue b ↔ a = b := residue_injective.eq_iff

theorem residue_add (a b : Fin m) : residue (a + b) = residue a + residue b := by
  simp [residue, Fin.val_add, ZMod.natCast_mod]

theorem residue_mul (a b : Fin m) : residue (a * b) = residue a * residue b := by
  simp [residue, Fin.val_mul, ZMod.natCast_mod]

theorem residue_sub (a b : Fin m) : residue (a - b) = residue a - residue b := by
  have hb : b.val ≤ m := b.isLt.le
  simp only [residue, Fin.val_sub, ZMod.natCast_mod, Nat.cast_add, Nat.cast_sub hb,
    ZMod.natCast_self]
  ring

theorem residue_ofNat [NeZero m] (n : Nat) : residue (Fin.ofNat m n) = (n : ZMod m) := by
  simp [residue, Fin.ofNat, ZMod.natCast_mod]

theorem residue_zero [NeZero m] : residue (0 : Fin m) = 0 := by
  simpa using residue_ofNat (m := m) 0

theorem residue_eq_zero_iff [NeZero m] {a : Fin m} : residue a = 0 ↔ a = 0 := by
  rw [← residue_zero, residue_inj]

theorem residue_one (a : Fin m) : residue (one a) = 1 := by
  simp [residue, one, ZMod.natCast_mod]

/-! ## Powers -/

theorem residue_powerBits (a : Fin m) (bits e : Nat) :
    residue (powerBits a bits e) = residue a ^ (e % 2 ^ bits) := by
  induction bits generalizing e with
  | zero => simp [powerBits, residue_one, Nat.mod_one]
  | succ bits ih =>
    have he : e % 2 ^ (bits + 1) = 2 * (e / 2 % 2 ^ bits) + e % 2 := by
      rw [pow_succ', Nat.mod_mul, add_comm]
    simp only [powerBits]
    split
    · rename_i h
      rw [residue_mul, residue_mul, ih, he, h]
      ring
    · rename_i h
      rw [residue_mul, ih, he, Nat.mod_two_ne_one.mp h]
      ring

/-- Repeated squaring gives the power. -/
theorem residue_power (a : Fin m) (e : Nat) : residue (power a e) = residue a ^ e := by
  rw [power, residue_powerBits, Nat.mod_eq_of_lt Nat.lt_log2_self]

/-- Modulo an odd prime, the power with the prime less two is the inverse. -/
theorem residue_inverse [Fact m.Prime] (hm : 2 < m) (a : Fin m) :
    residue (inverse a) = (residue a)⁻¹ := by
  rw [inverse, residue_power]
  by_cases ha : residue a = 0
  · have he : m - 2 ≠ 0 := by omega
    rw [ha, inv_zero, zero_pow he]
  · have hp : residue a ^ (m - 1) = 1 := ZMod.pow_card_sub_one_eq_one ha
    have he : m - 1 = m - 2 + 1 := by omega
    rw [he, pow_succ] at hp
    exact eq_inv_of_mul_eq_one_left hp

end EnclaveGate.Modular
