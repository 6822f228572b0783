import EnclaveGate.Authority
import EnclaveGate.Journal
import EnclaveGate.Randomness
import EnclaveGate.Settings.Basic

/-!
# Sessions

A session is the server's side of one handshake. It waits for message 1, then for message 3, and
then it is over: established if the secret was released, failed otherwise. What was agreed on with
message 1 is kept for message 3.
-/

namespace EnclaveGate

/-- What message 1 settles. -/
structure Handshake where
  /-- The enclave's ephemeral key. -/
  ga : WireKey
  /-- Our ephemeral key. -/
  gb : WireKey
  /-- The group of the platform. -/
  groupId : GroupId
  /-- The root of the key tree. -/
  kdk : DerivedKey
  /-- The key that authenticates messages 2 and 3. -/
  smk : DerivedKey
deriving DecidableEq

/-- How far a session has come. -/
inductive Phase
  /-- Message 1 is expected. -/
  | awaitingMsg1
  /-- Message 3 is expected. -/
  | awaitingMsg3 (handshake : Handshake)
  /-- The enclave is trusted and received the secret. -/
  | established
  /-- The handshake ended without trust. -/
  | failed
deriving DecidableEq

namespace Phase

/-- Whether no further message is accepted. -/
def isTerminal : Phase → Bool
  | established | failed => true
  | awaitingMsg1 | awaitingMsg3 _ => false

/-- The name of a phase. -/
def name : Phase → String
  | awaitingMsg1 => "AwaitingMsg1"
  | awaitingMsg3 _ => "AwaitingMsg3"
  | established => "Established"
  | failed => "Failed"

end Phase

/-- The server's side of one handshake. -/
structure Session where
  /-- The number of the session. -/
  id : SessionId
  /-- How far it has come. -/
  phase : Phase
deriving DecidableEq

namespace Session

/-- A session that waits for message 1. -/
def start (id : SessionId) : Session := ⟨id, .awaitingMsg1⟩

/-- Whether no further message is accepted. -/
def isTerminal (session : Session) : Bool := session.phase.isTerminal

/-- The same session in another phase. -/
def moveTo (session : Session) (phase : Phase) : Session := { session with phase }

end Session

/-- What the processing of a message brings about. -/
structure Outcome (α : Type) where
  /-- The session afterwards. -/
  session : Session
  /-- The answer to the message, or why there is none. -/
  result : Except Error α
  /-- What happened, in order. -/
  events : List Event

/-- The message came in the wrong phase, and nothing happens. -/
def Session.refuse {α : Type} (session : Session) (expected : String) : Outcome α :=
  ⟨session, .error (.invalidState expected session.phase.name), []⟩

/-- The processing of a message up to the point at which it is over or the authority is asked. -/
inductive Stage (α π : Type)
  /-- The processing is over. -/
  | finished (outcome : Outcome α)
  /-- The authority is asked. -/
  | asking (pending : π)

end EnclaveGate
