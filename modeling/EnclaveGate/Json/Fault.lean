import EnclaveGate.Text.Printable

/-!
# Faults of JSON documents

What is wrong with a document, and where. A place is a line, counted from one, and the number of
bytes of this line that were read. The wording names what was found and what was expected.
-/

namespace EnclaveGate.Json

/-- A place in a document. -/
structure Position where
  /-- The line, counted from one. -/
  line : Nat
  /-- How many bytes of the line were read. -/
  column : Nat
deriving DecidableEq, Repr

/-- What stands where something else was expected. -/
inductive Found
  /-- The literal null. -/
  | null
  /-- A truth value. -/
  | flag (value : Bool)
  /-- An integer of at most 64 bits. -/
  | integer (value : Int)
  /-- Any other number, as written. -/
  | decimal (written : String)
  /-- A text. -/
  | text (value : String)
  /-- A list. -/
  | list
  /-- An object. -/
  | object
deriving DecidableEq, Repr

/-- What is wrong with a document. -/
inductive Cause
  /-- The document ends in a list. -/
  | endInList
  /-- The document ends in an object. -/
  | endInObject
  /-- The document ends in a string. -/
  | endInString
  /-- The document ends where a value should be. -/
  | endInValue
  /-- A key is not followed by a colon. -/
  | colonExpected
  /-- An element is followed by neither a comma nor the end of its list. -/
  | listGoesOn
  /-- A member is followed by neither a comma nor the end of its object. -/
  | objectGoesOn
  /-- A literal is misspelled. -/
  | literalExpected
  /-- There is no value. -/
  | valueExpected
  /-- An escape is none of those that exist. -/
  | escape
  /-- A number is written in a wrong way. -/
  | number
  /-- A string is no text. -/
  | codePoint
  /-- A string holds a control character. -/
  | controlCharacter
  /-- A key is no string. -/
  | keyExpected
  /-- Half of a pair of surrogates stands alone. -/
  | loneSurrogate
  /-- The first half of a pair of surrogates is not followed by an escape. -/
  | surrogateExpected
  /-- A comma is followed by no element or member. -/
  | trailingComma
  /-- Something follows the end. -/
  | trailingCharacters
  /-- A value has the wrong type. -/
  | wrongType (found : Found) (expected : String)
  /-- A number is out of range. -/
  | outOfRange (value : Int) (expected : String)
  /-- A list has too few elements. -/
  | tooShort (actual : Nat) (expected : String)
  /-- A field is missing. -/
  | missingField (name : String)
  /-- A field comes twice. -/
  | duplicateField (name : String)
  /-- A name is none of those that exist. -/
  | unknownName (name : String) (known : List String)
deriving DecidableEq, Repr

/-- What is wrong with a document, and where, as far as it is known. -/
structure Fault where
  /-- What is wrong. -/
  cause : Cause
  /-- Where. -/
  position : Option Position
deriving DecidableEq, Repr

/-! ## Wording -/

/-- A text between backticks. -/
def ticked (s : String) : String := "\x60" ++ s ++ "\x60"

/-- The wording for what was found. -/
def Found.message : Found → String
  | null => "null"
  | flag value => "boolean " ++ ticked (if value then "true" else "false")
  | integer value => "integer " ++ ticked (toString value)
  | decimal written => "floating point " ++ ticked written
  | text value => "string " ++ Text.textStyle.quoteText value
  | list => "sequence"
  | object => "map"

/-- The wording for a cause. -/
def Cause.message : Cause → String
  | endInList => "EOF while parsing a list"
  | endInObject => "EOF while parsing an object"
  | endInString => "EOF while parsing a string"
  | endInValue => "EOF while parsing a value"
  | colonExpected => "expected " ++ ticked ":"
  | listGoesOn => "expected " ++ ticked "," ++ " or " ++ ticked "]"
  | objectGoesOn => "expected " ++ ticked "," ++ " or " ++ ticked "\x7d"
  | literalExpected => "expected ident"
  | valueExpected => "expected value"
  | escape => "invalid escape"
  | number => "invalid number"
  | codePoint => "invalid unicode code point"
  | controlCharacter => "control character (\\u0000-\\u001F) found while parsing a string"
  | keyExpected => "key must be a string"
  | loneSurrogate => "lone leading surrogate in hex escape"
  | surrogateExpected => "unexpected end of hex escape"
  | trailingComma => "trailing comma"
  | trailingCharacters => "trailing characters"
  | wrongType found expected => "invalid type: " ++ found.message ++ ", expected " ++ expected
  | outOfRange value expected =>
    "invalid value: integer " ++ ticked (toString value) ++ ", expected " ++ expected
  | tooShort actual expected => "invalid length " ++ toString actual ++ ", expected " ++ expected
  | missingField name => "missing field " ++ ticked name
  | duplicateField name => "duplicate field " ++ ticked name
  | unknownName name known =>
    "unknown variant " ++ ticked name ++ ", expected one of " ++ ", ".intercalate (known.map ticked)

/-- The wording for a fault. -/
def Fault.message (fault : Fault) : String :=
  match fault.position with
  | none => fault.cause.message
  | some p =>
    fault.cause.message ++ " at line " ++ toString p.line ++ " column " ++ toString p.column

end EnclaveGate.Json
