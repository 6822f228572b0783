import EnclaveGate.Proofs.Registry.Sessions

/-!
# Traffic

Traffic is a server with any number of calls on it that take their steps in any order. A call is
admitted or refused when it arrives; it waits until its session is free; it holds the session while
the authority is asked; and where the session is over, it releases the session before it removes it.
Any call may be the next to take a step, the authority may say anything at any time, and sessions
may be opened, purged and left idle between any two steps.
-/

namespace EnclaveGate

/-- What a call met at its session. -/
structure Visit where
  /-- The session that was addressed. -/
  ticket : Ticket
  /-- The session as the call found it. -/
  found : Session
  /-- The random bytes from which the call draws. -/
  tape : Tape
  /-- The authority that answered, if one was asked. -/
  authority : Option Authority

/-- How far a call has come. -/
inductive Stand (request : Request)
  /-- No session could be addressed. -/
  | refused (cause : Error)
  /-- The call waits for its session. -/
  | admitted (ticket : Ticket)
  /-- The call holds its session and waits for the authority. -/
  | asking (visit : Visit) (pending : request.Pending)
  /-- The session is over and released, but not yet removed. -/
  | leaving (visit : Visit) (result : Except Error request.Answer)
  /-- The call is answered. -/
  | answered (visit : Visit) (result : Except Error request.Answer)

namespace Stand

variable {request : Request}

/-- What the call met, once it has its session. -/
def visit? : Stand request → Option Visit
  | asking visit _ | leaving visit _ | answered visit _ => some visit
  | refused _ | admitted _ => none

/-- What the call is answered with, once its processing is over. -/
def result? : Stand request → Option (Except Error request.Answer)
  | refused cause => some (.error cause)
  | leaving _ result | answered _ result => some result
  | admitted _ | asking _ _ => none

/-- The session that is held. -/
def holds? : Stand request → Option Ticket
  | asking visit _ => some visit.ticket
  | _ => none

end Stand

/-- A request on its way. -/
structure Call where
  /-- The request. -/
  request : Request
  /-- How far it has come. -/
  stand : Stand request

/-- A server with the calls on it. -/
structure Traffic where
  /-- The server. -/
  server : Server
  /-- Every call in the order of arrival. -/
  calls : List Call

namespace Traffic

/-- A step of the traffic. -/
inductive Action
  /-- Time passes. -/
  | pass (ms : Nat)
  /-- A session is opened. -/
  | openSession
  /-- Sessions that were idle for too long are removed. -/
  | purge
  /-- A request arrives. -/
  | arrive (request : Request)
  /-- A call gets its session, if no other call holds it. -/
  | enter (i : Nat)
  /-- An authority answers a call, or its time is up. -/
  | hear (i : Nat) (authority : Authority)
  /-- A call removes its session. -/
  | leave (i : Nat)

/-- No sessions and no calls. -/
def start (tape : Tape) : Traffic := ⟨.start tape, []⟩

variable (settings : Settings) (traffic : Traffic)

/-- Whether a call holds a session. -/
def isHeld (ticket : Ticket) : Bool :=
  traffic.calls.any fun call => call.stand.holds? == some ticket

/-- A request arrives. -/
def arrive (request : Request) : Traffic :=
  match traffic.server.route settings request.sessionId with
  | (.error cause, server) => ⟨server, traffic.calls ++ [⟨request, .refused cause⟩]⟩
  | (.ok ticket, server) => ⟨server, traffic.calls ++ [⟨request, .admitted ticket⟩]⟩

/-- The processing of a call is over: what has become of the session is kept and the session is
released. -/
def conclude (i : Nat) (request : Request) (visit : Visit) (outcome : Outcome request.Answer)
    (tape : Tape) : Traffic :=
  let server := traffic.server
  let registry := server.registry.store visit.ticket outcome.session server.now
  let stand : Stand request :=
    if outcome.session.isTerminal then .leaving visit outcome.result
    else .answered visit outcome.result
  ⟨{ server with registry, tape }.report outcome.events, traffic.calls.set i ⟨request, stand⟩⟩

/-- A call gets its session and is processed up to the question to the authority, if there is
one. -/
def enter (i : Nat) : Traffic :=
  match traffic.calls[i]? with
  | some ⟨request, .admitted ticket⟩ =>
    if traffic.isHeld ticket then traffic
    else
      match traffic.server.registry.get? ticket with
      | none => traffic
      | some entry =>
        let server := traffic.server
        let visit : Visit := ⟨ticket, entry.session, server.tape, none⟩
        match entry.session.begin settings server.tape request with
        | (.finished outcome, tape) => traffic.conclude i request visit outcome tape
        | (.asking pending, tape) =>
          ⟨{ server with tape }, traffic.calls.set i ⟨request, .asking visit pending⟩⟩
  | _ => traffic

/-- The visit of a call to which an authority has answered: message 3 draws its random bytes only
then. -/
def heard (authority : Authority) (tape : Tape) (request : Request) (visit : Visit) : Visit :=
  match request with
  | .msg1 _ => { visit with authority := some authority }
  | .msg3 _ => { visit with authority := some authority, tape }

/-- An authority answers a call, or its time is up. -/
def hear (i : Nat) (authority : Authority) : Traffic :=
  match traffic.calls[i]? with
  | some ⟨request, .asking visit pending⟩ =>
    let server := traffic.server
    match server.registry.get? visit.ticket with
    | none => traffic
    | some entry =>
      let (outcome, tape) := entry.session.finish settings authority server.tape request pending
      traffic.conclude i request (heard authority server.tape request visit) outcome tape
  | _ => traffic

/-- A call removes its session and is answered. -/
def leave (i : Nat) : Traffic :=
  match traffic.calls[i]? with
  | some ⟨request, .leaving visit result⟩ =>
    let server := traffic.server
    ⟨{ server with registry := server.registry.unlist visit.ticket }.report
      (request.closing result), traffic.calls.set i ⟨request, .answered visit result⟩⟩
  | _ => traffic

/-- One step. A step that is not possible changes nothing. -/
def step : Action → Traffic
  | .pass ms => { traffic with server := traffic.server.advance ms }
  | .openSession => { traffic with server := (traffic.server.openSession settings).2 }
  | .purge => { traffic with server := (traffic.server.purge settings).2 }
  | .arrive request => traffic.arrive settings request
  | .enter i => traffic.enter settings i
  | .hear i authority => traffic.hear settings i authority
  | .leave i => traffic.leave i

/-- Any number of steps. -/
def run (actions : List Action) : Traffic := actions.foldl (step settings) traffic

/-- Every session that was opened, by its ticket. -/
def sessions : List Session := traffic.server.sessions

end Traffic

end EnclaveGate
