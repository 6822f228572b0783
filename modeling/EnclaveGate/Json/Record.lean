import EnclaveGate.Json.Skip

/-!
# Records

A record is read by the shapes of its fields. It is an object, in which unknown keys are skipped and
no known key comes twice, or a list of its fields in their order. A field that may be missing from
an object need not be one that may be missing from the end of a list.
-/

namespace EnclaveGate.Json

/-- What a field holds. -/
inductive Shape
  /-- A text. -/
  | text
  /-- A truth value. -/
  | flag
  /-- An integer between two bounds, with a name for its type. -/
  | integer (least greatest : Int) (title : String)
  /-- A list of texts. -/
  | texts
  /-- An object of lists of texts. -/
  | textLists
  /-- One of some names. -/
  | oneOf (names : List String)
  /-- A value that may be null. -/
  | nullable (shape : Shape)

/-- What was read of a field. -/
inductive Datum
  /-- The literal null. -/
  | null
  /-- A text. -/
  | text (value : String)
  /-- A truth value. -/
  | flag (value : Bool)
  /-- An integer. -/
  | integer (value : Int)
  /-- A list of texts. -/
  | texts (values : List String)
  /-- An object of lists of texts. -/
  | textLists (members : List (String × List String))
deriving DecidableEq

/-- Where a field may be missing. -/
inductive Presence
  /-- The field must be there. -/
  | required
  /-- The field may be missing from an object. -/
  | inLists
  /-- The field may be missing. -/
  | optional
deriving DecidableEq

/-- A field of a record. -/
structure Field where
  /-- The name of the field. -/
  name : String
  /-- What it holds. -/
  shape : Shape
  /-- Where it may be missing. -/
  presence : Presence

/-- The fields of a record that were read. -/
abbrev Record := List (String × Datum)

variable {α : Type}

/-! ## Containers -/

/-- Whether another element of a list follows. -/
def hasElement (isFirst : Bool) : Reader Bool := do
  match ← peekToken with
  | none => faultAhead .endInList
  | some 0x5d => return false
  | some b =>
    if isFirst then return true
    else if b = 0x2c then
      advance
      match ← peekToken with
      | none => faultAhead .endInValue
      | some 0x5d => faultAhead .trailingComma
      | some _ => return true
    else faultAhead .listGoesOn

/-- Whether another member of an object follows. -/
def hasMember (isFirst : Bool) : Reader Bool := do
  match ← peekToken with
  | none => faultAhead .endInObject
  | some 0x7d => return false
  | some b =>
    if isFirst then
      if b = 0x22 then return true else faultAhead .keyExpected
    else if b = 0x2c then
      advance
      match ← peekToken with
      | none => faultAhead .endInValue
      | some 0x22 => return true
      | some 0x7d => faultAhead .trailingComma
      | some _ => faultAhead .keyExpected
    else faultAhead .objectGoesOn

/-- Reads the end of a list. -/
def closeList : Reader Unit := do
  match ← peekToken with
  | none => faultAhead .endInList
  | some 0x5d => advance
  | some 0x2c =>
    advance
    match ← peekToken with
    | some 0x5d => faultAhead .trailingComma
    | _ => faultAhead .trailingCharacters
  | some _ => faultAhead .trailingCharacters

/-- Reads the end of an object. -/
def closeObject : Reader Unit := do
  match ← peekToken with
  | none => faultAhead .endInObject
  | some 0x7d => advance
  | some 0x2c => faultAhead .trailingComma
  | some _ => faultAhead .trailingCharacters

/-- The fault of a value that has the wrong type. Scalars are read first. -/
def wrongType (expected : String) : Reader α := placed do
  match ← peek with
  | some 0x6e =>
    advance
    readLiteral nullRest
    unplaced (.wrongType .null expected)
  | some 0x74 =>
    advance
    readLiteral trueRest
    unplaced (.wrongType (.flag true) expected)
  | some 0x66 =>
    advance
    readLiteral falseRest
    unplaced (.wrongType (.flag false) expected)
  | some 0x2d =>
    advance
    unplaced (.wrongType (← number true) expected)
  | some 0x22 =>
    advance
    unplaced (.wrongType (.text (← readText)) expected)
  | some 0x5b => unplaced (.wrongType .list expected)
  | some 0x7b => unplaced (.wrongType .object expected)
  | some b =>
    if isDigit b then unplaced (.wrongType (← number false) expected)
    else faultAhead .valueExpected
  | none => faultAhead .valueExpected

/-- Reads a list or an object, or neither. -/
def readContainer (expected : String) (list object : Option (Reader α)) : Reader α := do
  match ← peekToken, list, object with
  | none, _, _ => faultAhead .endInValue
  | some 0x5b, some contents, _ =>
    advance
    placed (closedBy contents closeList)
  | some 0x7b, _, some contents =>
    advance
    placed (closedBy contents closeObject)
  | _, _, _ => wrongType expected

/-- The key of a member, behind its colon. -/
def readKey : Reader String := do
  advance
  let key ← readText
  readColon
  return key

/-! ## Values of each shape -/

/-- A text. -/
def text : Reader String := do
  match ← peekToken with
  | none => faultAhead .endInValue
  | some 0x22 =>
    advance
    readText
  | some _ => wrongType "a string"

/-- A truth value. -/
def flag : Reader Bool := do
  match ← peekToken with
  | none => faultAhead .endInValue
  | some 0x74 =>
    advance
    readLiteral trueRest
    return true
  | some 0x66 =>
    advance
    readLiteral falseRest
    return false
  | some _ => wrongType "a boolean"

/-- An integer out of what a number stands for. -/
def integerOf (least greatest : Int) (title : String) : Found → Reader Int
  | .integer v =>
    if least ≤ v ∧ v ≤ greatest then return v else unplaced (.outOfRange v title)
  | found => unplaced (.wrongType found title)

/-- An integer between two bounds. -/
def integer (least greatest : Int) (title : String) : Reader Int := do
  match ← peekToken with
  | none => faultAhead .endInValue
  | some 0x2d => placed do
    advance
    integerOf least greatest title (← number true)
  | some b =>
    if isDigit b then placed do integerOf least greatest title (← number false)
    else wrongType title

/-- At most `fuel` elements of a list of texts; `acc` holds those that were read, last one first. -/
def textsUpTo (acc : List String) : Nat → Reader (List String)
  | 0 => return acc.reverse
  | fuel + 1 => do
    if ← hasElement acc.isEmpty then
      textsUpTo ((← text) :: acc) fuel
    else return acc.reverse

/-- A list of texts. -/
def texts : Reader (List String) := do
  let fuel := (← remaining) + 1
  readContainer "a sequence" (some (textsUpTo [] fuel)) none

/-- At most `fuel` members of an object of lists of texts. The last list under a key counts. -/
def textListsUpTo (isFirst : Bool) (acc : List (String × List String)) :
    Nat → Reader (List (String × List String))
  | 0 => return acc
  | fuel + 1 => do
    if ← hasMember isFirst then
      let key ← readKey
      let values ← texts
      textListsUpTo false (acc.filter (·.1 != key) ++ [(key, values)]) fuel
    else return acc

/-- An object of lists of texts. -/
def textLists : Reader (List (String × List String)) := do
  let fuel := (← remaining) + 1
  readContainer "a map" none (some (textListsUpTo true [] fuel))

/-- One of some names, as a text. -/
def name (names : List String) : Reader String := placed do
  let found ← text
  if names.contains found then return found else unplaced (.unknownName found names)

/-- The literal null. -/
def null : Reader Unit := do
  match ← peekToken with
  | none => faultAhead .endInValue
  | some 0x6e =>
    advance
    readLiteral nullRest
  | some _ => wrongType "unit"

/-- One of some names, as a text or as an object whose only member has this name and is null. -/
def nameOrMember (names : List String) : Reader String := do
  match ← peekToken with
  | none => faultAhead .endInValue
  | some 0x22 => name names
  | some 0x7b =>
    advance
    let found ← name names
    readColon
    null
    match ← peekToken with
    | some 0x7d =>
      advance
      return found
    | some _ => faultBehind .valueExpected
    | none => faultBehind .endInObject
  | some _ => faultAhead .valueExpected

/-- A value of a shape. -/
def datum : Shape → Reader Datum
  | .text => return .text (← text)
  | .flag => return .flag (← flag)
  | .integer least greatest title => return .integer (← integer least greatest title)
  | .texts => return .texts (← texts)
  | .textLists => return .textLists (← textLists)
  | .oneOf names => return .text (← nameOrMember names)
  | .nullable shape => do
    match ← peekToken with
    | some 0x6e =>
      advance
      readLiteral nullRest
      return .null
    | _ => datum shape

/-! ## Fields -/

/-- The fields of a record in their order, as elements of a list, from the field at `index` on. -/
def elements (expected : String) (index : Nat) (isFirst : Bool) : List Field → Reader Record
  | [] => return []
  | field :: rest => do
    if ← hasElement isFirst then
      let value ← datum field.shape
      return (field.name, value) :: (← elements expected (index + 1) false rest)
    else if field.presence = .optional then elements expected (index + 1) isFirst rest
    else unplaced (.tooShort index expected)

/-- The first field that must be there and is not. -/
def missing? (fields : List Field) (record : Record) : Option String :=
  (fields.find? fun field =>
    field.presence = .required && !(record.any (·.1 == field.name))).map (·.name)

/-- The fields of a record as members of an object, at most `fuel` of them. -/
def membersUpTo (fields : List Field) (isFirst : Bool) (record : Record) : Nat → Reader Record
  | 0 => return record
  | fuel + 1 => do
    if ← hasMember isFirst then
      advance
      let key ← readText
      match fields.find? (·.name == key) with
      | none =>
        readColon
        skipValue
        membersUpTo fields false record fuel
      | some field =>
        if record.any (·.1 == key) then unplaced (.duplicateField key)
        else
          readColon
          let value ← datum field.shape
          membersUpTo fields false ((key, value) :: record) fuel
    else
      match missing? fields record with
      | some name => unplaced (.missingField name)
      | none => return record

/-- A record with a name for its type. -/
def record (title : String) (fields : List Field) : Reader Record := do
  let fuel := (← remaining) + 1
  let expected := title ++ " with " ++ toString fields.length ++ " elements"
  readContainer title (some (elements expected 0 true fields))
    (some (membersUpTo fields true [] fuel))

/-- Refuses everything but white space. -/
def endOfDocument : Reader Unit := do
  if (← peekToken).isSome then faultAhead .trailingCharacters

/-- The record that a document consists of. -/
def readRecord (title : String) (fields : List Field) (document : Bytes) : Except Fault Record :=
  match (do let found ← record title fields; endOfDocument; return found : Reader Record)
      (.start document) with
  | .ok found _ => .ok found
  | .error fault _ => .error fault

namespace Record

variable (record : Record)

/-- The text in a field. -/
def text? (name : String) : Option String :=
  match record.lookup name with
  | some (.text value) => some value
  | _ => none

/-- The truth value in a field. -/
def flag? (name : String) : Option Bool :=
  match record.lookup name with
  | some (.flag value) => some value
  | _ => none

/-- The integer in a field. -/
def integer? (name : String) : Option Int :=
  match record.lookup name with
  | some (.integer value) => some value
  | _ => none

/-- The list of texts in a field. -/
def texts? (name : String) : Option (List String) :=
  match record.lookup name with
  | some (.texts values) => some values
  | _ => none

/-- The object of lists of texts in a field. -/
def textLists? (name : String) : Option (List (String × List String)) :=
  match record.lookup name with
  | some (.textLists members) => some members
  | _ => none

end Record

end EnclaveGate.Json
