import EnclaveGate.Bytes.Basic

/-!
# DER elements

An element is a tag, a length in its shortest form and as many bytes of content. Only tags of one
byte are known.
-/

namespace EnclaveGate.Der

/-- An element. -/
structure Element where
  /-- The tag byte. -/
  tag : UInt8
  /-- The content. -/
  content : Bytes
deriving DecidableEq

/-- The tag of an integer. -/
def tagInteger : UInt8 := 0x02

/-- The tag of a bit string. -/
def tagBitString : UInt8 := 0x03

/-- The tag of an octet string. -/
def tagOctetString : UInt8 := 0x04

/-- The tag of an object identifier. -/
def tagObjectId : UInt8 := 0x06

/-- The tag of a sequence. -/
def tagSequence : UInt8 := 0x30

/-- The tags of the universal class that are known. -/
def universalTags : List UInt8 :=
  [0x01, 0x02, 0x03, 0x04, 0x05, 0x06, 0x09, 0x0a, 0x0c, 0x12, 0x13, 0x14, 0x15, 0x16, 0x17, 0x18,
    0x1a, 0x1e, 0x30, 0x31]

/-- Whether a byte is a tag: a known one, or one of another class that needs no further byte. -/
def isTag (b : UInt8) : Bool :=
  if b < 0x40 then universalTags.contains b else b &&& 0x1f != 0x1f

/-- Whether a tag belongs to the context-specific class. -/
def isContextTag (b : UInt8) : Bool := b &&& 0xc0 == 0x80

/-- The number of a context-specific tag. -/
def tagNumber (b : UInt8) : UInt8 := b &&& 0x1f

/-- Whether the tag says that the content is made of elements. -/
def isConstructed (b : UInt8) : Bool := b &&& 0x20 != 0

/-- A length in its shortest form, and what follows it. -/
def readLength : Bytes → Option (Nat × Bytes)
  | [] => none
  | b :: rest =>
    if b < 0x80 then some (b.toNat, rest)
    else
      let count := b.toNat - 0x80
      if 1 ≤ count ∧ count ≤ 4 ∧ count ≤ rest.length then
        let length := Bytes.natBE (rest.take count)
        if 0x80 ≤ length ∧ Bytes.bound (count - 1) ≤ length then some (length, rest.drop count)
        else none
      else none

/-- The first element of a string, and what follows it. -/
def readElement : Bytes → Option (Element × Bytes)
  | [] => none
  | tag :: rest =>
    if isTag tag then
      match readLength rest with
      | none => none
      | some (length, rest) =>
        if length ≤ rest.length then some (⟨tag, rest.take length⟩, rest.drop length) else none
    else none

/-- The content of the first element, if it has the given tag, and what follows it. -/
def expect (tag : UInt8) (bs : Bytes) : Option (Bytes × Bytes) :=
  match readElement bs with
  | some (element, rest) => if element.tag = tag then some (element.content, rest) else none
  | none => none

/-- The content of the only element of a string, if it has the given tag. -/
def only (tag : UInt8) (bs : Bytes) : Option Bytes :=
  match expect tag bs with
  | some (content, []) => some content
  | _ => none

/-- Skips the context-specific elements with numbers below `number`, and reads the element with that
number, if it is there. At most `fuel` elements are skipped. -/
def contextElement (number : UInt8) : Nat → Bytes → Option (Option Element × Bytes)
  | 0, bs => some (none, bs)
  | _, [] => some (none, [])
  | fuel + 1, tag :: rest =>
    if !isTag tag then none
    else if !isContextTag tag || number < tagNumber tag then some (none, tag :: rest)
    else
      match readElement (tag :: rest) with
      | none => none
      | some (element, rest) =>
        if tagNumber tag = number then some (some element, rest)
        else contextElement number fuel rest

/-- The bytes of a bit string that ends at a byte. -/
def bitStringBytes? : Bytes → Option Bytes
  | 0 :: bytes => some bytes
  | _ => none

/-- Reads arcs of an object identifier, each in groups of seven bits and at most 32 bits long;
`taken` counts the bytes of the current arc. -/
def arcsOk (taken : Nat) : Bytes → Bool
  | [] => taken == 0
  | b :: rest =>
    if 4 ≤ taken && b &&& 0xf0 != 0 then false
    else if b < 0x80 then arcsOk 0 rest
    else arcsOk (taken + 1) rest

/-- Whether a content is an object identifier: of 3 to 39 bytes, of which the first holds two arcs.
-/
def isObjectId : Bytes → Bool
  | [] => false
  | first :: arcs => 2 ≤ arcs.length && arcs.length ≤ 38 && first < 120 && arcsOk 0 arcs

/-- Whether a string is a sequence of constructed context-specific elements that hold one element
each. At most `fuel` elements are looked at. -/
def areContextElements : Nat → Bytes → Bool
  | _, [] => true
  | 0, _ => false
  | fuel + 1, bs =>
    match readElement bs with
    | none => false
    | some (element, rest) =>
      isContextTag element.tag && isConstructed element.tag &&
        (match readElement element.content with
          | some (_, []) => true
          | _ => false) &&
        areContextElements fuel rest

end EnclaveGate.Der
