import EnclaveGate.Bytes.Basic

/-!
# Base 64

Four characters stand for three bytes. Only the last group may be shorter, filled up with `=`, and
then the bits that are left over must be zero, so that each byte string has one written form.
-/

namespace EnclaveGate.Base64

/-- The value of a character. -/
def value? (b : UInt8) : Option UInt8 :=
  if 0x41 ≤ b ∧ b ≤ 0x5a then some (b - 0x41)
  else if 0x61 ≤ b ∧ b ≤ 0x7a then some (b - 0x47)
  else if 0x30 ≤ b ∧ b ≤ 0x39 then some (b + 4)
  else if b = 0x2b then some 62
  else if b = 0x2f then some 63
  else none

/-- The character that fills up the last group. -/
def padding : UInt8 := 0x3d

/-- The byte of a last group with two characters. -/
def oneByte? (a b : UInt8) : Option Bytes := do
  let a ← value? a
  let b ← value? b
  if b &&& 15 = 0 then some [(a <<< 2) ||| (b >>> 4)] else none

/-- The bytes of a last group with three characters. -/
def twoBytes? (a b c : UInt8) : Option Bytes := do
  let a ← value? a
  let b ← value? b
  let c ← value? c
  if c &&& 3 = 0 then some [(a <<< 2) ||| (b >>> 4), (b <<< 4) ||| (c >>> 2)] else none

/-- The bytes of a whole group. -/
def threeBytes? (a b c d : UInt8) : Option Bytes := do
  let a ← value? a
  let b ← value? b
  let c ← value? c
  let d ← value? d
  return [(a <<< 2) ||| (b >>> 4), (b <<< 4) ||| (c >>> 2), (c <<< 6) ||| d]

/-- The bytes written by a text. -/
def decode? : Bytes → Option Bytes
  | [] => some []
  | [a, b, c, d] =>
    if d = padding then if c = padding then oneByte? a b else twoBytes? a b c
    else threeBytes? a b c d
  | a :: b :: c :: d :: rest => do
    let group ← threeBytes? a b c d
    return group ++ (← decode? rest)
  | _ => none

end EnclaveGate.Base64
