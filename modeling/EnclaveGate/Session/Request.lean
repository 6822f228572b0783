import EnclaveGate.Session.Evidence
import EnclaveGate.Session.Offer

/-!
# Requests to a session

A request is message 1 or message 3; each has its own kind of answer and its own kind of pending
state while the authority is asked. A session processes a request in two steps, before and after the
answer of the authority, or at once where the authority is not asked.
-/

namespace EnclaveGate

/-- A message from an enclave. -/
inductive Request
  /-- The enclave's key. -/
  | msg1 (msg1 : Msg1)
  /-- The enclave's evidence. -/
  | msg3 (msg3 : Msg3)
deriving DecidableEq

namespace Request

/-- The session that is addressed. -/
def sessionId : Request → SessionId
  | msg1 m => m.sessionId
  | msg3 m => m.sessionId

/-- What a request is answered with. -/
abbrev Answer : Request → Type
  | msg1 _ => Msg2
  | msg3 _ => Msg4

/-- What is kept of a request while the authority is asked. -/
abbrev Pending : Request → Type
  | msg1 _ => Offer
  | msg3 _ => Evidence

/-- Message 1 with the given bytes. -/
def ofMsg1Bytes (id : SessionId) (bs : Bytes) : Except Error Request := (Msg1.parse id bs).map msg1

/-- Message 3 with the given bytes. -/
def ofMsg3Bytes (id : SessionId) (bs : Bytes) : Except Error Request := (Msg3.parse id bs).map msg3

/-- The question to the authority. -/
def question : (request : Request) → request.Pending → Question
  | msg1 _, offer => .revocationList offer.handshake.groupId
  | msg3 _, evidence => .verdict evidence.msg3.quote

/-- How long the server waits for the authority. -/
def wait (settings : Settings) (authority : Authority) : (request : Request) → request.Pending → Nat
  | msg1 _, offer =>
    (authority.revocationList offer.handshake.groupId).wait settings.authorityTimeout
  | msg3 _, evidence => (authority.verdict evidence.msg3.quote).wait settings.authorityTimeout

/-- What is reported when a session is over after a request: evidence completes it. -/
def closing : (request : Request) → Except Error request.Answer → List Event
  | msg1 _, _ => []
  | msg3 m, .ok msg4 => [.completed m.sessionId msg4.result.enclaveTrusted]
  | msg3 m, .error _ => [.completed m.sessionId false]

end Request

namespace Session

/-- Processes a request up to the question to the authority, if there is one. -/
def begin (settings : Settings) (session : Session) (tape : Tape) :
    (request : Request) → Stage request.Answer request.Pending × Tape
  | .msg1 m => session.beginMsg1 settings m tape
  | .msg3 m => (session.beginMsg3 m, tape)

/-- Processes a request from the answer of the authority on. -/
def finish (settings : Settings) (authority : Authority) (session : Session) (tape : Tape) :
    (request : Request) → request.Pending → Outcome request.Answer × Tape
  | .msg1 _, offer =>
    let reply := authority.revocationList offer.handshake.groupId
    (session.finishMsg1 offer (reply.within settings.authorityTimeout), tape)
  | .msg3 _, evidence =>
    let reply := authority.verdict evidence.msg3.quote
    session.finishMsg3 settings evidence tape (reply.within settings.authorityTimeout)

/-- Processes a request from its arrival to its answer. -/
def process (settings : Settings) (authority : Authority) (session : Session) (tape : Tape)
    (request : Request) : Outcome request.Answer × Tape :=
  match session.begin settings tape request with
  | (.finished outcome, rest) => (outcome, rest)
  | (.asking pending, rest) => session.finish settings authority rest request pending

/-- What the authority is asked for a request. -/
def asks (settings : Settings) (session : Session) (tape : Tape) (request : Request) :
    Option Question :=
  match session.begin settings tape request with
  | (.finished _, _) => none
  | (.asking pending, _) => some (request.question pending)

end Session

end EnclaveGate
