import EnclaveGate.Error.Message
import EnclaveGate.Message.Basic
import EnclaveGate.Policy

/-!
# The journal

Sessions and their registry report what happens to them as events. An event has a level, a text, and
fields; no event carries key material or anything of the secret.
-/

namespace EnclaveGate

/-- How much an event matters. -/
inductive Level
  /-- A call to the authority failed. -/
  | error
  /-- An enclave did something that is not accepted. -/
  | warn
  /-- A session began, ended or was evicted. -/
  | info
  /-- Anything else. -/
  | debug
deriving DecidableEq, Repr

/-- Something that happened. -/
inductive Event
  /-- A session was opened. -/
  | created (id : SessionId)
  /-- A session was evicted to make room for another one. -/
  | evicted (id : SessionId)
  /-- A message found its session idle for too long. -/
  | expired (id : SessionId)
  /-- Sessions that were idle for too long were removed. -/
  | purged (count : Nat)
  /-- A session came to its end. -/
  | completed (id : SessionId) (trusted : Bool)
  /-- Message 1 was answered. -/
  | keyAccepted (id : SessionId)
  /-- Message 1 was refused. -/
  | keyRefused (id : SessionId) (cause : Error)
  /-- The revocation list could not be fetched. -/
  | listFailed (id : SessionId) (cause : Error)
  /-- The authentication code of message 3 is wrong. -/
  | macMismatch (id : SessionId)
  /-- The key in message 3 is not that of message 1. -/
  | keyMismatch (id : SessionId)
  /-- The group in the quote is not that of message 1. -/
  | groupMismatch (id : SessionId)
  /-- The quote is not bound to the key exchange. -/
  | bindingMismatch (id : SessionId)
  /-- The authority could not judge the quote. -/
  | verificationFailed (id : SessionId) (cause : Error)
  /-- The authority judged the quote. -/
  | verdictReceived (id : SessionId) (status : String)
  /-- The policy denied trust. -/
  | untrusted (id : SessionId) (denial : Denial)
  /-- The enclave is trusted and receives the secret. -/
  | secretReleased (id : SessionId)
deriving DecidableEq

/-- The value of a field of an event. -/
inductive FieldValue
  /-- A number. -/
  | number (v : Nat)
  /-- A truth value. -/
  | flag (v : Bool)
  /-- A text. -/
  | text (v : String)
deriving DecidableEq

namespace Event

/-- The level of an event. -/
def level : Event → Level
  | created _ | evicted _ | completed .. | secretReleased _ => .info
  | expired _ | purged _ | keyAccepted _ | verdictReceived .. => .debug
  | listFailed .. | verificationFailed .. => .error
  | keyRefused .. | macMismatch _ | keyMismatch _ | groupMismatch _ | bindingMismatch _
  | untrusted .. => .warn

/-- The text of an event. -/
def message : Event → String
  | created _ => "created session"
  | evicted _ => "evicted least recently active session"
  | expired _ => "session expired"
  | purged _ => "purged expired sessions"
  | completed .. => "session completed"
  | keyAccepted _ => "message 2 sent, awaiting message 3"
  | keyRefused _ cause => s!"message 1 rejected: {cause.message}"
  | listFailed _ cause => s!"revocation list fetch failed: {cause.message}"
  | macMismatch _ => "message 3 MAC mismatch"
  | keyMismatch _ => "message 3 key differs from message 1"
  | groupMismatch _ => "quote group differs from message 1"
  | bindingMismatch _ => "quote report data not bound to this key exchange"
  | verificationFailed _ cause => s!"quote verification failed: {cause.message}"
  | verdictReceived .. => "authority verdict received"
  | untrusted .. => "enclave not trusted"
  | secretReleased _ => "enclave trusted, secret released"

/-- The session that an event is about. -/
def session? : Event → Option SessionId
  | purged _ => none
  | created id | evicted id | expired id | completed id _ | keyAccepted id | keyRefused id _
  | listFailed id _ | macMismatch id | keyMismatch id | groupMismatch id | bindingMismatch id
  | verificationFailed id _ | verdictReceived id _ | untrusted id _ | secretReleased id => some id

/-- The details of an event beside the session. -/
def details : Event → List (String × FieldValue)
  | purged count => [("purged", .number count)]
  | completed _ trusted => [("trusted", .flag trusted)]
  | verdictReceived _ status => [("status", .text status)]
  | untrusted _ denial => [("reason", .text denial.message)]
  | _ => []

/-- The fields of an event. -/
def fields (event : Event) : List (String × FieldValue) :=
  (event.session?.map fun id => ("session_id", FieldValue.number id.toNat)).toList ++ event.details

end Event

end EnclaveGate
