import EnclaveGate.Json.Scalar

/-!
# Skipping values

A value that nobody asked for is skipped, whatever it is. Containers that are still open are kept in
a list, so that they may be nested as deeply as the document goes.
-/

namespace EnclaveGate.Json

/-- A container. -/
inductive Container
  /-- A list. -/
  | list
  /-- An object. -/
  | object
deriving DecidableEq, Repr

namespace Container

/-- The byte that closes a container. -/
def closing : Container → UInt8
  | list => 0x5d
  | object => 0x7d

/-- The fault where the document ends in a container. -/
def endCause : Container → Cause
  | list => .endInList
  | object => .endInObject

/-- The fault where something follows that neither continues nor closes a container. -/
def goesOnCause : Container → Cause
  | list => .listGoesOn
  | object => .objectGoesOn

end Container

/-- Reads the colon behind a key. -/
def readColon : Reader Unit := do
  match ← peekToken with
  | some 0x3a => advance
  | some _ => faultAhead .colonExpected
  | none => faultAhead .endInObject

/-- Skips a key and its colon. -/
def skipKey : Reader Unit := do
  match ← peekToken with
  | some 0x22 => advance
  | some _ => faultAhead .keyExpected
  | none => faultAhead .endInObject
  skipString
  readColon

/-- What is expected next. -/
inductive Expectation
  /-- A value. -/
  | value
  /-- The end of the innermost container or, behind its first contents, a comma. -/
  | closing (isFirst : Bool)

/-- The step that a value begins with: a scalar is skipped as a whole, and a container is opened. -/
def skipStart : Reader (Option Container) := do
  match ← peekToken with
  | none => faultAhead .endInValue
  | some 0x6e =>
    advance
    readLiteral nullRest
    return none
  | some 0x74 =>
    advance
    readLiteral trueRest
    return none
  | some 0x66 =>
    advance
    readLiteral falseRest
    return none
  | some 0x2d =>
    advance
    readNumber .number
    return none
  | some 0x22 =>
    advance
    skipString
    return none
  | some 0x5b =>
    advance
    return some .list
  | some 0x7b =>
    advance
    return some .object
  | some b =>
    if isDigit b then
      readNumber .number
      return none
    else faultAhead .valueExpected

/-- Skips at most `fuel` steps with some containers open, innermost first. -/
def skipUpTo : Nat → Expectation → List Container → Reader Unit
  | 0, _, _ => faultAhead .endInValue
  | fuel + 1, .value, containers => do
    match ← skipStart with
    | none => skipUpTo fuel (.closing false) containers
    | some container => skipUpTo fuel (.closing true) (container :: containers)
  | _, .closing _, [] => return ()
  | fuel + 1, .closing isFirst, container :: containers => do
    match ← peekToken with
    | none => faultAhead container.endCause
    | some b =>
      if b = container.closing then
        advance
        skipUpTo fuel (.closing false) containers
      else if b = 0x2c ∧ !isFirst then
        advance
        if container = .object then skipKey
        skipUpTo fuel .value (container :: containers)
      else if isFirst then
        if container = .object then skipKey
        skipUpTo fuel .value (container :: containers)
      else faultAhead container.goesOnCause

/-- Skips a value. -/
def skipValue : Reader Unit := do skipUpTo (2 * (← remaining) + 2) .value []

end EnclaveGate.Json
