import EnclaveGate.Bytes.Basic

/-!
# The field of the block cipher

A byte is a polynomial of degree below eight over the field with two elements, taken modulo
`x ^ 8 + x ^ 4 + x ^ 3 + x + 1`. The substitution of the cipher inverts in this field (zero stays
zero) and then applies an affine map over the bits.
-/

namespace EnclaveGate.Rijndael

/-- The product with `x`. -/
def double (b : UInt8) : UInt8 := if b &&& 0x80 = 0 then b <<< 1 else (b <<< 1) ^^^ 0x1b

/-- The product of `a` with the lowest `n` coefficients of `b`. -/
def mulLow : Nat → UInt8 → UInt8 → UInt8
  | 0, _, _ => 0
  | n + 1, a, b => (if b &&& 1 = 0 then 0 else a) ^^^ mulLow n (double a) (b >>> 1)

/-- The product in the field. -/
def mul (a b : UInt8) : UInt8 := mulLow 8 a b

/-- The inverse in the field, with zero for zero: the power with exponent 254. -/
def inverse (b : UInt8) : UInt8 :=
  let b2 := mul b b
  let b4 := mul b2 b2
  let b8 := mul b4 b4
  let b16 := mul b8 b8
  let b32 := mul b16 b16
  let b64 := mul b32 b32
  mul b2 (mul b4 (mul b8 (mul b16 (mul b32 (mul b64 (mul b64 b64))))))

/-- Rotation of the bits to the left. -/
def rotl (b n : UInt8) : UInt8 := (b <<< n) ||| (b >>> (8 - n))

/-- The affine map over the bits. -/
def affine (b : UInt8) : UInt8 := b ^^^ rotl b 1 ^^^ rotl b 2 ^^^ rotl b 3 ^^^ rotl b 4 ^^^ 0x63

/-- The substitution of every byte, in order. -/
def substitutions : Vector UInt8 256 := Vector.ofFn fun i => affine (inverse (UInt8.ofNat i))

/-- The substitution of a byte. -/
def substitute (b : UInt8) : UInt8 :=
  have h : b.toNat < 256 := b.toNat_lt
  substitutions[b.toNat]

/-- The table holds what its definition says: inversion, then the affine map. -/
theorem substitute_eq (b : UInt8) : substitute b = affine (inverse b) := by
  simp [substitute, substitutions]

end EnclaveGate.Rijndael
