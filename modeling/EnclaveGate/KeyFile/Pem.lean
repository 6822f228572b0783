import EnclaveGate.KeyFile.Base64

/-!
# PEM documents

A document stands between a line that begins it and a line that ends it, which name the same label.
Text before the first line is skipped. The lines between hold base 64, 64 characters each but for
the last one, and end in LF, CRLF or CR; there are no headers.
-/

namespace EnclaveGate.Pem

/-- The bytes of an ASCII text. -/
def ascii (s : String) : Bytes := s.toList.map fun c => UInt8.ofNat c.toNat

/-- How the first line of a document begins. -/
def beginMark : Bytes := ascii "-----BEGIN "

/-- How the last line of a document begins. -/
def endMark : Bytes := ascii "-----END "

/-- How both lines end. -/
def dashes : Bytes := ascii "-----"

/-- What follows a given start of a string. -/
def after? (start bs : Bytes) : Option Bytes :=
  if start.isPrefixOf bs then some (bs.drop start.length) else none

/-- What precedes a given end of a string. -/
def before? (stop bs : Bytes) : Option Bytes :=
  if stop.isSuffixOf bs then some (bs.take (bs.length - stop.length)) else none

/-- The text from its first line that begins a document, unless a NUL comes before. -/
def skipPreamble : Bytes → Option Bytes
  | [] => none
  | b :: rest =>
    if b = 0 then none
    else if b = 0x0a && beginMark.isPrefixOf rest then some rest
    else skipPreamble rest

/-- The text from the first line that begins a document, which may be the first line of all. -/
def fromBegin? (text : Bytes) : Option Bytes :=
  if beginMark.isPrefixOf text then some text else skipPreamble text

/-- What follows a line end at the start. -/
def afterLineEnd? : Bytes → Option Bytes
  | 0x0a :: rest => some rest
  | 0x0d :: 0x0a :: rest => some rest
  | 0x0d :: rest => some rest
  | _ => none

/-- What precedes a line end at the end. -/
def beforeLineEnd? (bs : Bytes) : Option Bytes :=
  match bs.reverse with
  | 0x0a :: 0x0d :: rest => some rest.reverse
  | 0x0a :: rest => some rest.reverse
  | 0x0d :: rest => some rest.reverse
  | _ => none

/-- The number of characters of a line. -/
def lineWidth : Nat := 64

/-- The characters of at most `fuel` lines and of the last line, without the line ends. -/
def joinLines : Nat → Bytes → Option Bytes
  | 0, _ => none
  | fuel + 1, bs =>
    if bs.length ≤ lineWidth then some ((beforeLineEnd? bs).getD bs)
    else do
      let rest ← afterLineEnd? (bs.drop lineWidth)
      return bs.take lineWidth ++ (← joinLines fuel rest)

/-- The base 64 text of the document with a label. -/
def body? (label text : Bytes) : Option Bytes := do
  let text ← fromBegin? text
  let text ← after? (beginMark ++ label ++ dashes) text
  let text ← afterLineEnd? text
  let text ← before? (endMark ++ label ++ dashes) ((beforeLineEnd? text).getD text)
  beforeLineEnd? text

/-- The content of the document with a label. -/
def decode? (label : String) (text : Bytes) : Option Bytes := do
  let body ← body? (ascii label) text
  if body.isEmpty then none
  else Base64.decode? (← joinLines (body.length + 1) body)

end EnclaveGate.Pem
