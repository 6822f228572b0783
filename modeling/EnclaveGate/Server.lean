import EnclaveGate.Registry
import EnclaveGate.Session.Request

/-!
# The server

A server is a registry with a clock, random bytes and a journal. It opens sessions and sends each
request to the session that it addresses. A request is admitted if its id addresses a session that
was not idle for too long; then it is processed, and a session that is over afterwards can no longer
be addressed. Between admission and the end of the processing time may pass and other requests may
be handled; `Server.handle` is the case in which nothing else happens meanwhile.
-/

namespace EnclaveGate

/-- A registry with a clock in milliseconds, random bytes and a journal. -/
structure Server where
  /-- The sessions. -/
  registry : Registry
  /-- The random bytes that are left. -/
  tape : Tape
  /-- The time since the start. -/
  now : Nat
  /-- What happened, in order. -/
  journal : List Event
deriving DecidableEq

/-- The processing of a request on its session up to the question to the authority. -/
inductive Reached (request : Request)
  /-- The processing is over. -/
  | done (result : Except Error request.Answer)
  /-- The authority is asked. -/
  | asking (pending : request.Pending)

namespace Server

/-- A server without sessions. -/
def start (tape : Tape) : Server := ⟨.empty, tape, 0, []⟩

variable (server : Server)

/-- Reports events. -/
def report (events : List Event) : Server := { server with journal := server.journal ++ events }

/-- Lets time pass. -/
def advance (ms : Nat) : Server := { server with now := server.now + ms }

/-! ## Opening -/

/-- Draws numbers until one is neither zero nor an id in use, at most `tries` times. -/
def drawIdUpTo (registry : Registry) : Nat → Tape → Except Error SessionId × Tape
  | 0, tape => (.error .randomness, tape)
  | tries + 1, tape =>
    match tape.draw? 8 with
    | none => (.error .randomness, tape)
    | some (bytes, rest) =>
      let id := UInt64.ofNat bytes.natLE
      if id = 0 || registry.hasId id then drawIdUpTo registry tries rest else (.ok id, rest)

/-- A fresh id, unless the tape ends first. -/
def drawId (registry : Registry) (tape : Tape) : Except Error SessionId × Tape :=
  drawIdUpTo registry (tape.size / 8) tape

/-- Adds a session under a fresh id and makes room for it. -/
def register (settings : Settings) (id : SessionId) : Server :=
  let (registry, evictions) := server.registry.makeRoom settings server.now
  { server with
    registry := registry.add (.start id) server.now
    journal := server.journal ++ evictions ++ [.created id] }

/-- Opens a session: a challenge, then an id, are drawn. -/
def openSession (settings : Settings) : Except Error Challenge × Server :=
  match server.tape.draw? 32 with
  | none => (.error .randomness, server)
  | some (challenge, tape) =>
    match drawId server.registry tape with
    | (.error e, tape) => (.error e, { server with tape })
    | (.ok sessionId, tape) =>
      (.ok { sessionId, challenge }, { server with tape }.register settings sessionId)

/-! ## Idle sessions -/

/-- Whether a request for an id would be admitted now. -/
def contains (settings : Settings) (id : SessionId) : Bool :=
  server.registry.contains settings server.now id

/-- Removes all sessions that were idle for too long and tells how many there were. -/
def purge (settings : Settings) : Nat × Server :=
  let count := server.registry.countExpired settings server.now
  let registry := server.registry.dropExpired settings server.now
  (count, { server with registry }.report (if 0 < count then [.purged count] else []))

/-! ## Requests -/

/-- Admits a request for an id, which counts as activity. A session that was idle for too long is
removed. -/
def route (settings : Settings) (id : SessionId) : Except Error Ticket × Server :=
  match server.registry.find? id with
  | none => (.error (.sessionNotFound id), server)
  | some ticket =>
    if server.contains settings id then
      (.ok ticket, { server with registry := server.registry.touch ticket server.now })
    else
      (.error (.sessionNotFound id),
        { server with registry := server.registry.unlist ticket }.report [.expired id])

/-- Ends the processing of a request: what has become of the session is kept, and a session that is
over can no longer be addressed. -/
def settle (ticket : Ticket) (request : Request) (outcome : Outcome request.Answer) (tape : Tape) :
    Server :=
  let registry := server.registry.store ticket outcome.session server.now
  if outcome.session.isTerminal then
    { server with registry := registry.unlist ticket, tape }.report
      (outcome.events ++ request.closing outcome.result)
  else { server with registry, tape }.report outcome.events

/-- Processes an admitted request up to the question to the authority, if there is one. -/
def begin (settings : Settings) (ticket : Ticket) (request : Request) : Reached request × Server :=
  match server.registry.get? ticket with
  | none => (.done (.error (.sessionNotFound request.sessionId)), server)
  | some entry =>
    match entry.session.begin settings server.tape request with
    | (.finished outcome, tape) => (.done outcome.result, server.settle ticket request outcome tape)
    | (.asking pending, tape) => (.asking pending, { server with tape })

/-- Processes an admitted request from the answer of the authority on. -/
def finish (settings : Settings) (authority : Authority) (ticket : Ticket) (request : Request)
    (pending : request.Pending) : Except Error request.Answer × Server :=
  match server.registry.get? ticket with
  | none => (.error (.sessionNotFound request.sessionId), server)
  | some entry =>
    let (outcome, tape) := entry.session.finish settings authority server.tape request pending
    (outcome.result, server.settle ticket request outcome tape)

/-- Processes an admitted request while nothing else happens. -/
def serve (settings : Settings) (authority : Authority) (ticket : Ticket) (request : Request) :
    Except Error request.Answer × Server :=
  match server.begin settings ticket request with
  | (.done result, server) => (result, server)
  | (.asking pending, server) =>
    (server.advance (request.wait settings authority pending)).finish settings authority ticket
      request pending

/-- Handles a request while nothing else happens. -/
def handle (settings : Settings) (authority : Authority) (request : Request) :
    Except Error request.Answer × Server :=
  match server.route settings request.sessionId with
  | (.error e, server) => (.error e, server)
  | (.ok ticket, server) => server.serve settings authority ticket request

/-! ## Requests in bytes -/

/-- Handles the bytes of message 1 and answers with the bytes of message 2. -/
def handleMsg1Bytes (settings : Settings) (authority : Authority) (id : SessionId) (bs : Bytes) :
    Except Error Bytes × Server :=
  match Msg1.parse id bs with
  | .error e => (.error e, server)
  | .ok msg1 =>
    let (result, server) := server.handle settings authority (.msg1 msg1)
    (result.map Msg2.toBytes, server)

/-- Handles the bytes of message 3. -/
def handleMsg3Bytes (settings : Settings) (authority : Authority) (id : SessionId) (bs : Bytes) :
    Except Error Msg4 × Server :=
  match Msg3.parse id bs with
  | .error e => (.error e, server)
  | .ok msg3 => server.handle settings authority (.msg3 msg3)

end Server

end EnclaveGate
