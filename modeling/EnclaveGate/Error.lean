import EnclaveGate.Bytes.Hex
import EnclaveGate.Json.Fault

/-!
# Causes of failure

One type for everything that can go wrong, by cause. The texts are in `EnclaveGate.Error.Message`.
Failures of cryptography carry no details, so that nothing derived from key material can reach a
log or an answer.
-/

namespace EnclaveGate

/-- Why a cryptographic operation failed. -/
inductive CryptoFailure
  /-- A text was too long, or a tag was wrong. -/
  | encryption
  /-- A key could not be derived. -/
  | keyDerivation
  /-- The long-term key could not sign. -/
  | signing
  /-- A coordinate does not fit into 32 bytes. -/
  | coordinateTooLarge
deriving DecidableEq, Repr

/-- Why a file or directory could not be read. -/
inductive ReadFailure
  /-- There is nothing at the path. -/
  | notFound
  /-- A part of the path that should be a directory is none. -/
  | notADirectory
  /-- A directory was read as a file. -/
  | isADirectory
  /-- The content is no UTF-8. -/
  | invalidText
  /-- The path holds a NUL character. -/
  | nulInPath
  /-- A failure known by its text only. -/
  | other (text : String)
deriving DecidableEq, Repr

/-- Why a configuration was refused. -/
inductive ConfigError
  /-- A file or directory could not be read. -/
  | read (path : String) (cause : ReadFailure)
  /-- The configuration text has the wrong form. -/
  | json (fault : Json.Fault)
  /-- A field is no hexadecimal text. -/
  | hex (field : String) (cause : HexError)
  /-- A field has the wrong number of bytes. -/
  | length (field : String) (expected actual : Nat)
  /-- The long-term key could not be read. -/
  | invalidKey
  /-- A field has a value that is out of range. -/
  | invalid (field reason : String)
deriving DecidableEq, Repr

/-- Why a byte string is no message, quote or signature. -/
inductive FormatError
  /-- Message 1 with the wrong number of bytes. -/
  | msg1Size (actual : Nat)
  /-- Message 3 with too few bytes. -/
  | msg3Size (actual : Nat)
  /-- A quote with too few bytes. -/
  | quoteSize (actual : Nat)
  /-- A quote whose length field differs from the number of bytes behind it. -/
  | signatureLength (declared trailing : Nat)
  /-- A signature whose scalars are out of range. -/
  | signature
  /-- A failure known by its text only. -/
  | other (text : String)
deriving DecidableEq, Repr

/-- Why an operation failed. -/
inductive Error
  /-- The configuration was refused. -/
  | config (cause : ConfigError)
  /-- No live session has this id. -/
  | sessionNotFound (id : UInt64)
  /-- A message reached a session in the wrong state. -/
  | invalidState (expected actual : String)
  /-- A byte string has the wrong form. -/
  | invalidFormat (cause : FormatError)
  /-- A cryptographic operation failed. -/
  | crypto (cause : CryptoFailure)
  /-- The peer's public key is no point of the curve. -/
  | invalidPublicKey
  /-- The attestation authority failed. -/
  | authority (text : String)
  /-- Too few random bytes are left. -/
  | randomness
  /-- The attestation authority did not answer in time. -/
  | timeout (ms : UInt64)
deriving DecidableEq, Repr

/-- Whether the failure came from outside and not from the client's messages. -/
def Error.isCollaboratorFailure : Error → Bool
  | .authority _ => true
  | .timeout _ => true
  | _ => false

/-! ## Steps that can fail -/

/-- What comes of a step and what follows it is good only if both are. -/
theorem bind_ok {ε α β : Type} {x : Except ε α} {f : α → Except ε β} {b : β}
    (h : x >>= f = .ok b) : ∃ a, x = .ok a ∧ f a = .ok b := by
  cases x with
  | error e => cases h
  | ok a => exact ⟨a, rfl, h⟩

/-- A step that succeeds is followed by the next one. -/
theorem bind_of_ok {ε α β : Type} {x : Except ε α} {a : α} (h : x = .ok a) (f : α → Except ε β) :
    x >>= f = f a := by
  subst h
  rfl

end EnclaveGate
