import EnclaveGate.Bytes.Basic
import EnclaveGate.Json.Fault

/-!
# Reading a document

A document is read once from front to back. A reader takes the cursor from one place to another or
stops at a fault; where it stops matters too, because a fault that is found in a container is placed
behind the end of the container.
-/

namespace EnclaveGate.Json

/-- The place behind a byte. -/
def Position.after (p : Position) (b : UInt8) : Position :=
  if b = 0x0a then ⟨p.line + 1, 0⟩ else ⟨p.line, p.column + 1⟩

/-- The rest of a document and the place where it starts. -/
structure Cursor where
  /-- What was not read. -/
  rest : Bytes
  /-- The place of what was read last. -/
  position : Position

namespace Cursor

/-- The start of a document. -/
def start (text : Bytes) : Cursor := ⟨text, ⟨1, 0⟩⟩

/-- The cursor behind the next byte. -/
def next (cursor : Cursor) : Cursor :=
  match cursor.rest with
  | [] => cursor
  | b :: rest => ⟨rest, cursor.position.after b⟩

/-- Whether a byte is white space between tokens. -/
def isSpace (b : UInt8) : Bool := b == 0x20 || b == 0x09 || b == 0x0a || b == 0x0d

/-- The cursor behind all white space, for the rest of a document from a place on. -/
def behindSpace (p : Position) : Bytes → Cursor
  | [] => ⟨[], p⟩
  | b :: rest => if isSpace b then behindSpace (p.after b) rest else ⟨b :: rest, p⟩

end Cursor

/-- A reader moves the cursor and yields a value, or stops at a fault. -/
abbrev Reader := EStateM Fault Cursor

variable {α : Type}

/-- The next byte, which is not read. -/
def peek : Reader (Option UInt8) := return (← get).rest.head?

/-- Reads a byte. -/
def advance : Reader Unit := modify Cursor.next

/-- The next byte, which is read. -/
def next : Reader (Option UInt8) := do
  let b ← peek
  advance
  return b

/-- The next byte that is no white space, which is not read. -/
def peekToken : Reader (Option UInt8) := do
  modify fun c => Cursor.behindSpace c.position c.rest
  peek

/-- How many bytes are left. -/
def remaining : Reader Nat := return (← get).rest.length

/-! ## Faults -/

/-- A fault in what was read last. -/
def faultBehind (cause : Cause) : Reader α := do
  throw ⟨cause, some (← get).position⟩

/-- A fault in the next byte. -/
def faultAhead (cause : Cause) : Reader α := do
  throw ⟨cause, some (← get).next.position⟩

/-- A fault that is placed later. -/
def unplaced (cause : Cause) : Reader α := throw ⟨cause, none⟩

/-- Places a fault that has no place where the reader stopped. -/
def placed (reader : Reader α) : Reader α := fun cursor =>
  match reader cursor with
  | .error ⟨cause, none⟩ stopped => .error ⟨cause, some stopped.position⟩ stopped
  | result => result

/-- Reads the end of a container behind its contents. A fault in the contents is the fault, but the
end is read all the same. -/
def closedBy (contents : Reader α) (closing : Reader Unit) : Reader α := fun cursor =>
  match contents cursor with
  | .ok a reached =>
    match closing reached with
    | .ok () stopped => .ok a stopped
    | .error fault stopped => .error fault stopped
  | .error fault reached =>
    match closing reached with
    | .ok () stopped => .error fault stopped
    | .error _ stopped => .error fault stopped

end EnclaveGate.Json
