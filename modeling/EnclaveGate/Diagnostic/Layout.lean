import EnclaveGate.Bytes.Hex
import EnclaveGate.Text.Printable

/-!
# Layout of diagnostics

A diagnostic shows a value on one line: a record by its name and fields, a set or a table between
braces, a list between brackets, a duration in the largest unit that it reaches. A record that hides
some of its fields ends in two dots.
-/

namespace EnclaveGate.Diagnostic

/-- Items with commas between them. -/
def commas (items : List String) : String := ", ".intercalate items

/-- Text between braces. -/
def braced (text : String) : String := "\x7b" ++ text ++ "\x7d"

/-- A record with its fields, of which some may be hidden. -/
def record (name : String) (fields : List (String × String)) (hidesSome : Bool) : String :=
  let shown := fields.map fun (field, value) => field ++ ": " ++ value
  name ++ " " ++ braced (" " ++ commas (shown ++ if hidesSome then [".."] else []) ++ " ")

/-- A value in a wrapper. -/
def wrapped (name value : String) : String := name ++ "(" ++ value ++ ")"

/-- A value that may be missing. -/
def optional : Option String → String
  | none => "None"
  | some value => wrapped "Some" value

/-- A truth value. -/
def flag (b : Bool) : String := if b then "true" else "false"

/-- A text between quotes. -/
def text (s : String) : String := Text.textStyle.quoteText s

/-- A path between quotes. -/
def path (s : String) : String := Text.pathStyle.quoteText s

/-- A set. -/
def set (items : List String) : String := braced (commas items)

/-- A table. -/
def table (rows : List (String × String)) : String :=
  braced (commas (rows.map fun (key, value) => key ++ ": " ++ value))

/-- The bytes of a string as numbers. -/
def byteList (bs : Bytes) : String :=
  "[" ++ commas (bs.map fun (b : UInt8) => toString b.toNat) ++ "]"

/-- The three decimals of a number of thousandths, without zeros at the end. -/
def thousandths (v : Nat) : String :=
  let digits := [v / 100 % 10, v / 10 % 10, v % 10]
  String.join ((digits.reverse.dropWhile (· == 0)).reverse.map toString)

/-- A duration in milliseconds. -/
def duration (ms : Nat) : String :=
  if ms = 0 then "0ns"
  else if ms < 1000 then s!"{ms}ms"
  else if ms % 1000 = 0 then s!"{ms / 1000}s"
  else s!"{ms / 1000}.{thousandths (ms % 1000)}s"

end EnclaveGate.Diagnostic
