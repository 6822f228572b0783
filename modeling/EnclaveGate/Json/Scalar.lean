import EnclaveGate.Json.Cursor
import EnclaveGate.Text.Encoding

/-!
# Literals, numbers and strings

A string that is wanted as a text must be UTF-8 with paired surrogates. A string that is only
skipped need not: its escapes are checked for their form and nothing else. An integer has neither
fraction nor exponent, is no negative zero, and fits in 64 bits; every other number is kept as it
was written.
-/

namespace EnclaveGate.Json

/-- Reads the rest of a literal. -/
def readLiteral : Bytes → Reader Unit
  | [] => return ()
  | b :: rest => do
    match ← next with
    | none => faultBehind .endInValue
    | some found => if found = b then readLiteral rest else faultBehind .literalExpected

/-- The bytes behind the first letter of null. -/
def nullRest : Bytes := [0x75, 0x6c, 0x6c]

/-- The bytes behind the first letter of true. -/
def trueRest : Bytes := [0x72, 0x75, 0x65]

/-- The bytes behind the first letter of false. -/
def falseRest : Bytes := [0x61, 0x6c, 0x73, 0x65]

/-! ## Numbers -/

/-- Whether a byte is a decimal digit. -/
def isDigit (b : UInt8) : Bool := 0x30 ≤ b && b ≤ 0x39

/-- Whether the next byte is a decimal digit. -/
def atDigit : Reader Bool := return (← peek).any isDigit

/-- Reads all digits that follow, at most `fuel`, and counts them. -/
def readDigitsUpTo : Nat → Reader Nat
  | 0 => return 0
  | fuel + 1 => do
    if ← atDigit then
      advance
      return (← readDigitsUpTo fuel) + 1
    else return 0

/-- Reads all digits that follow and counts them. -/
def readDigits : Reader Nat := do readDigitsUpTo (← remaining)

/-- Reads the whole part of a number: a zero alone, or digits that do not start with one. At the end
of the document the fault is `atEnd`. -/
def readWhole (atEnd : Cause) : Reader Unit := do
  match ← next with
  | none => faultBehind atEnd
  | some 0x30 => if ← atDigit then faultAhead .number
  | some b => if isDigit b then discard readDigits else faultBehind .number

/-- Reads an exponent behind its letter. -/
def readExponent (atEnd : Cause) : Reader Unit := do
  match ← peek with
  | some 0x2b | some 0x2d => advance
  | _ => pure ()
  match ← next with
  | none => faultBehind atEnd
  | some b => if isDigit b then discard readDigits else faultBehind .number

/-- Reads an exponent, if there is one. -/
def readExponent? (atEnd : Cause) : Reader Unit := do
  match ← peek with
  | some 0x65 | some 0x45 =>
    advance
    readExponent atEnd
  | _ => pure ()

/-- Reads a fraction and an exponent, as far as they are there. -/
def readFraction? (atEnd : Cause) : Reader Unit := do
  match ← peek with
  | some 0x2e =>
    advance
    if (← readDigits) = 0 then
      faultAhead (if (← peek).isNone then atEnd else .number)
    readExponent? atEnd
  | _ => readExponent? atEnd

/-- Reads a number behind its sign. -/
def readNumber (atEnd : Cause) : Reader Unit := do
  readWhole atEnd
  readFraction? atEnd

/-- What was read between two places of a document. -/
def between (start stop : Cursor) : Bytes := start.rest.take (start.rest.length - stop.rest.length)

/-- The number with some decimal digits. -/
def decimalValue (digits : Bytes) : Nat := digits.foldl (fun n b => 10 * n + (b.toNat - 0x30)) 0

/-- What a number stands for: an integer if it fits. -/
def numberFound (negative : Bool) (written : Bytes) : Found :=
  let sign := if negative then "-" else ""
  let digits := String.ofList (written.map fun (b : UInt8) => Char.ofNat b.toNat)
  let asWritten := Found.decimal (sign ++ digits)
  if !written.all isDigit then asWritten
  else
    let n := decimalValue written
    if negative then (if n = 0 ∨ Bytes.bound 8 < 2 * n then asWritten else .integer (-n))
    else if n < Bytes.bound 8 then .integer n
    else asWritten

/-- The number that follows behind its sign. -/
def number (negative : Bool) : Reader Found := do
  let start ← get
  readNumber .endInValue
  return numberFound negative (between start (← get))

/-! ## Strings -/

/-- The value of a hexadecimal digit. -/
def hexValue? (b : UInt8) : Option Nat :=
  if isDigit b then some (b.toNat - 0x30)
  else if 0x61 ≤ b ∧ b ≤ 0x66 then some (b.toNat - 0x57)
  else if 0x41 ≤ b ∧ b ≤ 0x46 then some (b.toNat - 0x37)
  else none

/-- The code unit of four hexadecimal digits. -/
def codeUnit? (a b c d : UInt8) : Option Nat := do
  let a ← hexValue? a
  let b ← hexValue? b
  let c ← hexValue? c
  let d ← hexValue? d
  return ((a * 16 + b) * 16 + c) * 16 + d

/-- Reads a byte of a string. -/
def nextOfString : Reader UInt8 := do
  match ← peek with
  | none => faultBehind .endInString
  | some b =>
    advance
    return b

/-- Reads the four digits of an escape by code unit. -/
def readCodeUnit : Reader Nat := do
  let a ← nextOfString
  let b ← nextOfString
  let c ← nextOfString
  let d ← nextOfString
  match codeUnit? a b c d with
  | some unit => return unit
  | none => faultBehind .escape

/-- Reads a byte that a pair of surrogates needs. -/
def expectOfPair (b : UInt8) : Reader Unit := do
  if (← nextOfString) ≠ b then faultBehind .surrogateExpected

/-- Reads an escape by code unit behind its letter; a surrogate needs its partner. -/
def readCodePoint : Reader Bytes := do
  let unit ← readCodeUnit
  if 0xdc00 ≤ unit ∧ unit < 0xe000 then faultBehind .loneSurrogate
  else if unit < 0xd800 ∨ 0xe000 ≤ unit then return String.utf8EncodeChar (Char.ofNat unit)
  else
    expectOfPair 0x5c
    expectOfPair 0x75
    let low ← readCodeUnit
    if low < 0xdc00 ∨ 0xe000 ≤ low then faultBehind .loneSurrogate
    else
      let v := 0x10000 + (unit - 0xd800) * 0x400 + (low - 0xdc00)
      return String.utf8EncodeChar (Char.ofNat v)

/-- The byte that a short escape stands for. -/
def shortEscape? (b : UInt8) : Option UInt8 :=
  if b = 0x22 ∨ b = 0x5c ∨ b = 0x2f then some b
  else if b = 0x62 then some 0x08
  else if b = 0x66 then some 0x0c
  else if b = 0x6e then some 0x0a
  else if b = 0x72 then some 0x0d
  else if b = 0x74 then some 0x09
  else none

/-- Reads an escape behind the backslash. -/
def readEscape : Reader Bytes := do
  let b ← nextOfString
  if b = 0x75 then readCodePoint
  else
    match shortEscape? b with
    | some c => return [c]
    | none => faultBehind .escape

/-- Reads at most `fuel` characters of a string behind its first quote; `acc` holds the bytes that
were read, last one first. -/
def readStringUpTo (acc : Bytes) : Nat → Reader Bytes
  | 0 => faultBehind .endInString
  | fuel + 1 => do
    let b ← nextOfString
    if b = 0x22 then return acc.reverse
    else if b = 0x5c then
      let bytes ← readEscape
      readStringUpTo (bytes.reverse ++ acc) fuel
    else if b < 0x20 then faultBehind .controlCharacter
    else readStringUpTo (b :: acc) fuel

/-- The text of a string behind its first quote. -/
def readText : Reader String := do
  let bytes ← readStringUpTo [] ((← remaining) + 1)
  match Text.ofUtf8? bytes with
  | some s => return s
  | none => faultBehind .codePoint

/-- Skips an escape behind the backslash. -/
def skipEscape : Reader Unit := do
  let b ← nextOfString
  if b = 0x75 then discard readCodeUnit
  else if (shortEscape? b).isNone then faultBehind .escape

/-- Skips at most `fuel` characters of a string behind its first quote. -/
def skipStringUpTo : Nat → Reader Unit
  | 0 => faultBehind .endInString
  | fuel + 1 => do
    match ← peek with
    | none => faultBehind .endInString
    | some b =>
      if b < 0x20 then faultBehind .controlCharacter
      advance
      if b = 0x22 then return ()
      else
        if b = 0x5c then skipEscape
        skipStringUpTo fuel

/-- Skips a string behind its first quote. -/
def skipString : Reader Unit := do skipStringUpTo ((← remaining) + 1)

end EnclaveGate.Json
