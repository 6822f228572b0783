/-!
# Quoted characters and texts

A diagnostic shows a character or a text between quotes, with escapes for the quote, the backslash,
common control characters and whatever has no glyph of its own. Which quotes are escaped depends on
what is shown.
-/

namespace EnclaveGate.Text

/-- The lower-case hexadecimal digits of a number, without leading zeros. -/
def hexDigits (v : Nat) : String := String.ofList (Nat.toDigits 16 v)

/-- An escape by code point. -/
def escapeCode (c : Char) : String := "\\u\x7b" ++ hexDigits c.toNat ++ "\x7d"

/-- How a kind of literal is written. -/
structure Style where
  /-- Whether a single quote is escaped. -/
  escapesSingle : Bool
  /-- Whether a double quote is escaped. -/
  escapesDouble : Bool
  /-- Whether a character stands for itself. -/
  isPlain : Char → Bool

/-- A character inside a literal. -/
def Style.escape (style : Style) (c : Char) : String :=
  if c == '\x00' then "\\0"
  else if c == '\t' then "\\t"
  else if c == '\r' then "\\r"
  else if c == '\n' then "\\n"
  else if c == '\\' then "\\\\"
  else if c == '\'' && style.escapesSingle then "\\'"
  else if c == '"' && style.escapesDouble then "\\\""
  else if style.isPlain c then c.toString
  else escapeCode c

/-- A text between double quotes. -/
def Style.quoteText (style : Style) (s : String) : String :=
  "\"" ++ String.join (s.toList.map style.escape) ++ "\""

/-- A character between single quotes. -/
def Style.quoteChar (style : Style) (c : Char) : String := "'" ++ style.escape c ++ "'"

end EnclaveGate.Text
