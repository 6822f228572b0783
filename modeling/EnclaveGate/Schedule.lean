import EnclaveGate.Server

/-!
# Concurrent requests

A schedule is a server with requests in flight. A session processes one request at a time; further
requests to it wait in the order of their arrival, and the first of them goes on when the session is
released. A request that asks the authority goes on when the answer comes or the limit is reached.
Reapers purge idle sessions at once and then once per period.

One script drives the schedule. It opens sessions, sends requests of its own and waits for their
answers, launches requests that run beside it, and sleeps. The clock moves only while the script
waits. What happens at the same time happens in the order in which it was arranged, but the script
comes first where it waits for the time, and last where it waits for a session.
-/

namespace EnclaveGate

/-- When something that was arranged happens: by time, then by rank, then by order. -/
structure Appointment where
  /-- The time. -/
  time : Nat
  /-- The rank among things that happen at the same time. -/
  rank : Nat
  /-- The number of things that were arranged before. -/
  order : Nat
deriving DecidableEq, Repr

/-- Whether an appointment comes before another one. -/
def Appointment.isBefore (a b : Appointment) : Bool :=
  a.time < b.time || (a.time == b.time &&
    (a.rank < b.rank || (a.rank == b.rank && a.order < b.order)))

/-- How far a request has come. -/
inductive Progress (request : Request)
  /-- The request waits for its session. -/
  | queued (ticket : Ticket)
  /-- The session is free for the request. -/
  | granted (ticket : Ticket) (slot : Appointment)
  /-- The request waits for the authority. -/
  | waiting (ticket : Ticket) (slot : Appointment) (pending : request.Pending)
  /-- The request is answered. -/
  | done (result : Except Error request.Answer)

namespace Progress

variable {request : Request}

/-- The session that is used or waited for. -/
def ticket? : Progress request → Option Ticket
  | queued ticket | granted ticket _ | waiting ticket _ _ => some ticket
  | done _ => none

/-- Whether a session is waited for. -/
def isQueuedFor (ticket : Ticket) : Progress request → Bool
  | queued t => t == ticket
  | _ => false

/-- When the request goes on, if that is arranged. -/
def appointment? : Progress request → Option Appointment
  | granted _ a | waiting _ a _ => some a
  | queued _ | done _ => none

/-- The answer, if there is one. -/
def result? : Progress request → Option (Except Error request.Answer)
  | done result => some result
  | _ => none

end Progress

/-- A request in flight. -/
structure Flight where
  /-- The request. -/
  request : Request
  /-- Whether the script sent the request itself. -/
  isOwn : Bool
  /-- How far it has come. -/
  progress : Progress request

/-- A request with its answer. -/
structure Answered where
  /-- The request. -/
  request : Request
  /-- Its answer. -/
  result : Except Error request.Answer

/-- Purges idle sessions once per period. -/
structure Reaper where
  /-- The time from one purge to the next. -/
  period : Nat
  /-- The next purge. -/
  next : Appointment

/-- A server with requests in flight. -/
structure Schedule where
  /-- The server. -/
  server : Server
  /-- The requests in the order of their arrival, also those that are answered. -/
  flights : List Flight
  /-- The reapers. -/
  reapers : List Reaper
  /-- What the authority was asked, in order. -/
  asked : List Question
  /-- How many things were arranged. -/
  arranged : Nat

namespace Schedule

/-- A schedule in which nothing is in flight. -/
def start (tape : Tape) : Schedule := ⟨.start tape, [], [], [], 0⟩

variable (settings : Settings) (authority : Authority) (schedule : Schedule)

/-! ## Requests in flight -/

/-- How far a request has come. -/
def setProgress (i : Nat) (flight : Flight) (progress : Progress flight.request) : Schedule :=
  { schedule with flights := schedule.flights.set i { flight with progress } }

/-- An appointment after some time with a rank, and the schedule in which it is counted. -/
def arrange (delay rank : Nat) : Appointment × Schedule :=
  (⟨schedule.server.now + delay, rank, schedule.arranged⟩,
    { schedule with arranged := schedule.arranged + 1 })

/-- A session is released: the first request that waits for it may go on. -/
def release (ticket : Ticket) : Schedule :=
  match schedule.flights.findIdx? (·.progress.isQueuedFor ticket) with
  | none => schedule
  | some i =>
    match schedule.flights[i]? with
    | none => schedule
    | some flight =>
      let (appointment, schedule) := schedule.arrange 0 (if flight.isOwn then 2 else 1)
      schedule.setProgress i flight (.granted ticket appointment)

/-- A request is answered and releases its session. -/
def answer (i : Nat) (flight : Flight) (ticket : Ticket) (server : Server)
    (result : Except Error flight.request.Answer) : Schedule :=
  ({ schedule with server }.setProgress i flight (.done result)).release ticket

/-- The authority's answer has come, or the limit is reached. -/
def finish (i : Nat) (flight : Flight) (ticket : Ticket) (pending : flight.request.Pending) :
    Schedule :=
  let (result, server) :=
    schedule.server.finish settings authority ticket flight.request pending
  schedule.answer i flight ticket server result

/-- The authority is asked; a server that need not wait goes on at once. -/
def ask (i : Nat) (flight : Flight) (ticket : Ticket) (pending : flight.request.Pending) :
    Schedule :=
  let schedule := { schedule with asked := schedule.asked ++ [flight.request.question pending] }
  let wait := flight.request.wait settings authority pending
  if wait = 0 then schedule.finish settings authority i flight ticket pending
  else
    let (appointment, schedule) := schedule.arrange wait (if flight.isOwn then 0 else 1)
    schedule.setProgress i flight (.waiting ticket appointment pending)

/-- A request begins on its session. -/
def begin (i : Nat) (flight : Flight) (ticket : Ticket) : Schedule :=
  match schedule.server.begin settings ticket flight.request with
  | (.done result, server) => schedule.answer i flight ticket server result
  | (.asking pending, server) =>
    { schedule with server }.ask settings authority i flight ticket pending

/-- A request goes on. -/
def resume (i : Nat) (flight : Flight) : Schedule :=
  match flight.progress with
  | .granted ticket _ => schedule.begin settings authority i flight ticket
  | .waiting ticket _ pending => schedule.finish settings authority i flight ticket pending
  | .queued _ | .done _ => schedule

/-! ## What happens next -/

/-- Something that is arranged. -/
inductive Due
  /-- A request goes on. -/
  | flight (i : Nat) (flight : Flight)
  /-- A reaper purges. -/
  | reaper (i : Nat) (reaper : Reaper)

/-- Everything that is arranged, with its appointment. -/
def dues : List (Appointment × Due) :=
  (schedule.flights.zipIdx.filterMap fun (flight, i) =>
    flight.progress.appointment?.map fun a => (a, .flight i flight)) ++
  schedule.reapers.zipIdx.map fun (reaper, i) => (reaper.next, .reaper i reaper)

/-- The first of some appointments. -/
def first? : List (Appointment × Due) → Option (Appointment × Due)
  | [] => none
  | due :: rest =>
    match first? rest with
    | none => some due
    | some best => if best.1.isBefore due.1 then some best else some due

/-- A reaper purges and arranges its next purge. -/
def reap (i : Nat) (reaper : Reaper) : Schedule :=
  let (_, server) := schedule.server.purge settings
  let (next, schedule) := { schedule with server }.arrange reaper.period 1
  { schedule with reapers := schedule.reapers.set i { reaper with next } }

/-- Something that is arranged happens; the clock moves to its time. -/
def occur (time : Nat) (due : Due) : Schedule :=
  let schedule := { schedule with server := schedule.server.advance (time - schedule.server.now) }
  match due with
  | .flight i flight => schedule.resume settings authority i flight
  | .reaper i reaper => schedule.reap settings i reaper

/-- The first thing that is arranged happens, unless that would be at the limit or later. -/
def step? (limit : Nat) : Option Schedule :=
  match first? schedule.dues with
  | none => none
  | some (appointment, due) =>
    if appointment.time < limit then some (schedule.occur settings authority appointment.time due)
    else none

/-! ## Runs -/

/-- How many requests are not answered. -/
def unanswered : Nat := schedule.flights.countP (·.progress.ticket?.isSome)

/-- More things than can happen before a time: each request goes on at most twice, and each reaper
purges at most once per millisecond. -/
def stepsBefore (limit : Nat) : Nat :=
  2 * schedule.unanswered + schedule.reapers.length * (limit + 1 - schedule.server.now)

/-- At most `steps` things happen before a time. -/
def runUpTo : Nat → Nat → Schedule → Schedule
  | 0, _, schedule => schedule
  | steps + 1, limit, schedule =>
    match schedule.step? settings authority limit with
    | none => schedule
    | some next => runUpTo steps limit next

/-- Everything happens that is arranged for before a time. -/
def runBefore (limit : Nat) : Schedule :=
  runUpTo settings authority (schedule.stepsBefore limit) limit schedule

/-- Everything happens that is arranged for now. -/
def settle : Schedule := schedule.runBefore settings authority (schedule.server.now + 1)

/-- The answer to a request, if it is answered. -/
def isAnswered (i : Nat) : Bool :=
  match schedule.flights[i]? with
  | some flight => flight.progress.result?.isSome
  | none => true

/-- At most `steps` things happen before a time and until a request is answered. -/
def runForUpTo (i : Nat) : Nat → Nat → Schedule → Schedule
  | 0, _, schedule => schedule
  | steps + 1, limit, schedule =>
    if schedule.isAnswered i then schedule
    else
      match schedule.step? settings authority limit with
      | none => schedule
      | some next => runForUpTo i steps limit next

/-- A time by which every request in flight is answered, since each of them waits at most once. -/
def horizon : Nat := schedule.server.now + schedule.unanswered * settings.authorityTimeout + 1

/-- The clock moves until a request is answered. -/
def runFor (i : Nat) : Schedule :=
  let limit := schedule.horizon settings
  runForUpTo settings authority i (schedule.stepsBefore limit) limit schedule

/-! ## The script -/

/-- Adds a request that is in flight, and tells its place. -/
def addFlight (request : Request) (isOwn : Bool) (progress : Progress request) : Nat × Schedule :=
  (schedule.flights.length,
    { schedule with flights := schedule.flights ++ [{ request, isOwn, progress }] })

/-- Whether a request in flight uses a session or waits for it. -/
def isBusy (ticket : Ticket) : Bool :=
  schedule.flights.any fun flight => flight.progress.ticket? == some ticket

/-- A request arrives. If it is admitted, it begins at once or waits for its session. -/
def arrive (request : Request) (isOwn : Bool) : Nat × Schedule :=
  match schedule.server.route settings request.sessionId with
  | (.error e, server) => { schedule with server }.addFlight request isOwn (.done (.error e))
  | (.ok ticket, server) =>
    let flight : Flight := { request, isOwn, progress := .queued ticket }
    let (i, arrived) := { schedule with server }.addFlight request isOwn flight.progress
    (i, if schedule.isBusy ticket then arrived
      else arrived.begin settings authority i flight ticket)

/-- Sends a request and waits for its answer. -/
def send (request : Request) : Nat × Schedule :=
  let (i, schedule) := schedule.arrive settings authority request true
  (i, schedule.runFor settings authority i)

/-- Launches a request that runs beside the script. -/
def launch (request : Request) : Nat × Schedule :=
  (schedule.settle settings authority).arrive settings authority request false

/-- Waits for the answer to a request that was launched. -/
def await (i : Nat) : Schedule :=
  if schedule.isAnswered i then schedule
  else (schedule.runFor settings authority i).settle settings authority

/-- The request at a place with its answer, if it is answered. -/
def answered? (i : Nat) : Option Answered :=
  match schedule.flights[i]? with
  | none => none
  | some flight => flight.progress.result?.map (Answered.mk flight.request)

/-- Lets time pass. -/
def sleep (ms : Nat) : Schedule :=
  let limit := schedule.server.now + ms
  let schedule := schedule.runBefore settings authority limit
  { schedule with server := schedule.server.advance (limit - schedule.server.now) }

/-- Starts a reaper, which purges at once. -/
def spawnReaper (period : Nat) : Schedule :=
  let (next, schedule) := schedule.arrange 0 1
  { schedule with reapers := schedule.reapers ++ [Reaper.mk period next] }.settle settings authority

/-- The longest time that a reaper may live on when its server is gone. -/
def reaperGrace : Nat := 24 * 60 * 60 * 1000

/-- Whether every reaper ends soon when the server is gone, which it notices at its next purge. -/
def reapersEnd : Bool :=
  schedule.reapers.all fun reaper => reaper.next.time ≤ schedule.server.now + reaperGrace

/-- Opens a session. -/
def openSession : Except Error Challenge × Schedule :=
  let (result, server) := schedule.server.openSession settings
  (result, { schedule with server })

/-- Removes all sessions that were idle for too long and tells how many there were. -/
def purge : Nat × Schedule :=
  let (count, server) := schedule.server.purge settings
  (count, { schedule with server })

/-- Forgets what happened and what was asked. -/
def clear : Schedule :=
  { schedule with server := { schedule.server with journal := [] }, asked := [] }

end Schedule

end EnclaveGate
