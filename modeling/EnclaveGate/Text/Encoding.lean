import EnclaveGate.Bytes.Basic

/-!
# Text as bytes

Texts are encoded in UTF-8. Decoding refuses every byte string that is no encoding of a text.
-/

namespace EnclaveGate.Text

/-- The UTF-8 encoding of some characters. -/
def utf8 (s : List Char) : Bytes := s.flatMap String.utf8EncodeChar

/-- The text with the given encoding, if there is one. -/
def ofUtf8? (bs : Bytes) : Option String := String.fromUTF8? ⟨bs.toArray⟩

end EnclaveGate.Text
