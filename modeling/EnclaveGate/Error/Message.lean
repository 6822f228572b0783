import EnclaveGate.Error
import EnclaveGate.Text.Quoted

/-!
# Texts of failures

The wording of every failure, of the cause behind it, and of its form for a transport that knows
only kinds of input and output errors.
-/

namespace EnclaveGate

/-- A byte is shown as the character with its number; ASCII control characters, the blank area above
them and the soft hyphen have no glyph. -/
def byteStyle : Text.Style where
  escapesSingle := true
  escapesDouble := false
  isPlain c := (0x20 ≤ c.val && c.val < 0x7f) || (0xa0 < c.val && c.val ≠ 0xad)

/-- The text of a refused hexadecimal string. -/
def HexError.message : HexError → String
  | .oddLength => "Odd number of digits"
  | .invalidDigit byte index =>
    s!"Invalid character {byteStyle.quoteChar (Char.ofNat byte.toNat)} at position {index}"

/-- The text of a failed read. -/
def ReadFailure.message : ReadFailure → String
  | .notFound => "No such file or directory (os error 2)"
  | .notADirectory => "Not a directory (os error 20)"
  | .isADirectory => "Is a directory (os error 21)"
  | .invalidText => "stream did not contain valid UTF-8"
  | .nulInPath => "file name contained an unexpected NUL byte"
  | .other text => text

/-- The text of a refused configuration. -/
def ConfigError.message : ConfigError → String
  | .read path cause => s!"could not read {path}: {cause.message}"
  | .json fault => s!"could not parse configuration: {fault.message}"
  | .hex field cause => s!"invalid hex in {field}: {cause.message}"
  | .length field expected actual =>
    s!"{field} should contain {expected} bytes, but instead got {actual}"
  | .invalidKey => "could not parse the long-term key"
  | .invalid field reason => s!"invalid value for {field}: {reason}"

/-- The text of a wrong form. -/
def FormatError.message : FormatError → String
  | .msg1Size actual => s!"Message 1 should be 68 bytes, got {actual}"
  | .msg3Size actual => s!"Message 3 should be at least 772 bytes, got {actual}"
  | .quoteSize actual => s!"Quote should be at least 436 bytes, got {actual}"
  | .signatureLength declared trailing =>
    s!"Quote signature length {declared} does not match the {trailing} trailing bytes"
  | .signature => "Invalid signature"
  | .other text => text

/-- The text of a cryptographic failure, which goes no further than its class. -/
def CryptoFailure.message : CryptoFailure → String
  | .encryption => "Encryption failed"
  | .keyDerivation => "Key derivation failed"
  | .signing => "Signing failed"
  | .coordinateTooLarge => "Coordinate exceeds 32 bytes"

/-- The classes of failure of a transport. -/
inductive TransportKind
  /-- An argument is wrong. -/
  | invalidInput
  /-- The thing named does not exist. -/
  | notFound
  /-- The connection is not in the right state. -/
  | notConnected
  /-- Data has the wrong form. -/
  | invalidData
  /-- The time ran out. -/
  | timedOut
  /-- Anything else. -/
  | other
deriving DecidableEq, Repr

namespace Error

/-- The text of a failure. -/
def message : Error → String
  | .config cause => s!"Configuration error: {cause.message}"
  | .sessionNotFound id => s!"Session not found: {id.toNat}"
  | .invalidState expected actual =>
    s!"Session not in correct state: expected {expected}, but was {actual}"
  | .invalidFormat cause => s!"Invalid message format: {cause.message}"
  | .crypto _ => "Cryptographic operation failed"
  | .invalidPublicKey => "Key exchange failed"
  | .authority text => s!"Attestation authority error: {text}"
  | .randomness => "Random number generation failed"
  | .timeout ms => s!"Operation timed out after {ms.toNat} ms"

/-- The text of the cause behind a failure, where there is one. -/
def causeMessage? : Error → Option String
  | .config cause => some cause.message
  | .crypto cause => some cause.message
  | .invalidPublicKey => some "Invalid public key"
  | _ => none

/-- The class of a failure for a transport. -/
def transportKind : Error → TransportKind
  | .config _ => .invalidInput
  | .sessionNotFound _ => .notFound
  | .invalidState .. => .notConnected
  | .invalidFormat _ => .invalidData
  | .crypto _ => .other
  | .invalidPublicKey => .invalidData
  | .authority _ => .other
  | .randomness => .other
  | .timeout _ => .timedOut

/-- The text of a failure for a transport. -/
def transportMessage : Error → String
  | .config cause => cause.message
  | .sessionNotFound id => s!"Session not found: {id.toNat}"
  | .invalidState expected actual => s!"Invalid state: expected {expected}, but was {actual}"
  | .invalidFormat cause => cause.message
  | .crypto _ => "Cryptographic error"
  | .invalidPublicKey => "Key exchange error"
  | .authority text => text
  | .randomness => "Randomness failure"
  | .timeout ms => s!"Operation timed out after {ms.toNat} ms"

end Error

end EnclaveGate
