import EnclaveGate.Bytes.Basic

/-!
# Hexadecimal text

Two digits stand for one byte, high half first. Writing uses lower-case digits; reading takes both
cases and refuses a text whose length is odd before it looks at any digit, else the first byte that
is no digit. The text read is a byte string, so a character outside ASCII counts once per byte of
its encoding.
-/

namespace EnclaveGate

/-- Why a text is no hexadecimal byte string. -/
inductive HexError
  /-- The text has an odd number of bytes. -/
  | oddLength
  /-- The byte at `index` is no hexadecimal digit. -/
  | invalidDigit (byte : UInt8) (index : Nat)
deriving DecidableEq, Repr

namespace Hex

/-- The lower-case digit of a number below 16. -/
def digit (v : UInt8) : UInt8 := if v < 10 then 48 + v else 87 + v

/-- The value of a digit of either case. -/
def value? (b : UInt8) : Option UInt8 :=
  if 48 ≤ b ∧ b ≤ 57 then some (b - 48)
  else if 97 ≤ b ∧ b ≤ 102 then some (b - 87)
  else if 65 ≤ b ∧ b ≤ 70 then some (b - 55)
  else none

/-- The digits of a byte string. -/
def encode (bs : Bytes) : Bytes := bs.flatMap fun (b : UInt8) => [digit (b >>> 4), digit (b &&& 15)]

/-- The digits of a byte string as text. -/
def text (bs : Bytes) : String :=
  String.ofList ((encode bs).map fun (b : UInt8) => Char.ofNat b.toNat)

/-- Reads pairs of digits, the first of which stands at `index`. -/
def decodePairs (index : Nat) : Bytes → Except HexError Bytes
  | [] => .ok []
  | [_] => .error .oddLength
  | hi :: lo :: rest =>
    match value? hi, value? lo with
    | none, _ => .error (.invalidDigit hi index)
    | some _, none => .error (.invalidDigit lo (index + 1))
    | some h, some l => (decodePairs (index + 2) rest).map (((h <<< 4) ||| l) :: ·)

/-- The byte string written by pairs of digits. -/
def decode (digits : Bytes) : Except HexError Bytes :=
  if digits.length % 2 = 1 then .error .oddLength else decodePairs 0 digits

/-- The pair of digits of a byte reads back as its two halves, which make up the byte. -/
theorem value?_halves : ∀ b : Fin 256,
    value? (digit (UInt8.ofNat b.val >>> 4)) = some (UInt8.ofNat b.val >>> 4) ∧
    value? (digit (UInt8.ofNat b.val &&& 15)) = some (UInt8.ofNat b.val &&& 15) ∧
    ((UInt8.ofNat b.val >>> 4) <<< 4) ||| (UInt8.ofNat b.val &&& 15) = UInt8.ofNat b.val := by
  decide +kernel

theorem decodePairs_encode (index : Nat) (bs : Bytes) : decodePairs index (encode bs) = .ok bs := by
  induction bs generalizing index with
  | nil => rfl
  | cons b bs ih =>
    have halves := value?_halves ⟨b.toNat, b.toNat_lt⟩
    simp only [UInt8.ofNat_toNat] at halves
    obtain ⟨hi, lo, whole⟩ := halves
    have ih' := ih (index + 2)
    simp only [encode] at ih'
    simp [encode, decodePairs, hi, lo, whole, ih', Except.map]

@[simp] theorem length_encode (bs : Bytes) : (encode bs).length = 2 * bs.length := by
  induction bs with
  | nil => rfl
  | cons b bs ih => simp only [encode] at ih; simp [encode, ih]; omega

/-- Reading the digits of a byte string gives it back. -/
theorem decode_encode (bs : Bytes) : decode (encode bs) = .ok bs := by
  simp [decode, decodePairs_encode]

end Hex

end EnclaveGate
