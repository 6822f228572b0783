import EnclaveGate.Proofs.Traffic.Orderly

/-!
# Crowds

In a crowd even the admission of a request takes several steps. A request looks its id up and holds
on to the entry that it finds; then it judges whether the session was idle for too long; and then it
removes the entry or is admitted to the session. Between any two of these steps others may take
theirs, so the entry may be removed and the id given to another session. What removes an entry looks
its id up once more, and leaves the table alone if the id addresses another entry by now.
-/

namespace EnclaveGate

/-- Removes a session, if its id still addresses it. -/
def Registry.remove (registry : Registry) (id : SessionId) (k : Ticket) : Registry :=
  if registry.find? id = some k then registry.unlist k else registry

/-- How far a request has come that is not admitted yet. -/
inductive Search
  /-- An entry was found. -/
  | found (k : Ticket)
  /-- Its session was idle for too long. -/
  | idle (k : Ticket)
  /-- Its session was active recently enough. -/
  | awake (k : Ticket)
  /-- The request was admitted or refused. -/
  | ended

/-- The entry that the request holds on to. -/
def Search.ticket? : Search → Option Ticket
  | found k | idle k | awake k => some k
  | ended => none

/-- A request that seeks its session. -/
structure Visitor where
  /-- The request. -/
  request : Request
  /-- How far it has come. -/
  search : Search

/-- Traffic with requests that seek their sessions. -/
structure Crowd where
  /-- The server and the calls on it. -/
  traffic : Traffic
  /-- The requests in the order of arrival. -/
  visitors : List Visitor

namespace Crowd

/-- A step in a crowd. -/
inductive Action
  /-- Time passes. -/
  | pass (ms : Nat)
  /-- A session is opened. -/
  | openSession
  /-- Sessions that were idle for too long are removed. -/
  | purge
  /-- A request looks its id up. -/
  | look (request : Request)
  /-- A request judges whether its session was idle for too long. -/
  | judge (i : Nat)
  /-- A request removes the entry that it found idle and is refused. -/
  | remove (i : Nat)
  /-- A request is admitted. -/
  | accept (i : Nat)
  /-- A call gets its session, if no other call holds it. -/
  | enter (i : Nat)
  /-- An authority answers a call, or its time is up. -/
  | hear (i : Nat) (authority : Authority)
  /-- A call removes its session. -/
  | leave (i : Nat)

/-- No sessions and no requests. -/
def start (tape : Tape) : Crowd := ⟨.start tape, []⟩

variable (settings : Settings) (crowd : Crowd)

/-- The server. -/
def server : Server := crowd.traffic.server

/-- The sessions. -/
def registry : Registry := crowd.server.registry

/-- A request becomes a call. -/
def become (server : Server) (request : Request) (stand : Stand request) : Traffic :=
  ⟨server, crowd.traffic.calls ++ [⟨request, stand⟩]⟩

/-- A request looks its id up; where there is none, it is refused. -/
def look (request : Request) : Crowd :=
  match crowd.registry.find? request.sessionId with
  | none =>
    let cause : Error := .sessionNotFound request.sessionId
    { crowd with traffic := crowd.become crowd.server request (.refused cause) }
  | some k => { crowd with visitors := crowd.visitors ++ [⟨request, .found k⟩] }

/-- Whether the session of an entry was idle for too long. -/
def isIdle (k : Ticket) : Bool :=
  match crowd.registry.get? k with
  | some entry => entry.isExpired settings.sessionTimeout crowd.server.now
  | none => false

/-- A request judges whether its session was idle for too long. -/
def judge (i : Nat) : Crowd :=
  match crowd.visitors[i]? with
  | some ⟨request, .found k⟩ =>
    let search : Search := if crowd.isIdle settings k then .idle k else .awake k
    { crowd with visitors := crowd.visitors.set i ⟨request, search⟩ }
  | _ => crowd

/-- A request removes the entry that it found idle and is refused. -/
def remove (i : Nat) : Crowd :=
  match crowd.visitors[i]? with
  | some ⟨request, .idle k⟩ =>
    let id := request.sessionId
    let server := { crowd.server with registry := crowd.registry.remove id k }.report [.expired id]
    ⟨crowd.become server request (.refused (.sessionNotFound id)),
      crowd.visitors.set i ⟨request, .ended⟩⟩
  | _ => crowd

/-- A request is admitted, which counts as activity. -/
def accept (i : Nat) : Crowd :=
  match crowd.visitors[i]? with
  | some ⟨request, .awake k⟩ =>
    let server := { crowd.server with registry := crowd.registry.touch k crowd.server.now }
    ⟨crowd.become server request (.admitted k), crowd.visitors.set i ⟨request, .ended⟩⟩
  | _ => crowd

/-- A call removes its session and is answered. -/
def leave (i : Nat) : Crowd :=
  match crowd.traffic.calls[i]? with
  | some ⟨request, .leaving visit result⟩ =>
    let registry := crowd.registry.remove request.sessionId visit.ticket
    { crowd with traffic :=
      ⟨{ crowd.server with registry }.report (request.closing result),
        crowd.traffic.calls.set i ⟨request, .answered visit result⟩⟩ }
  | _ => crowd

/-- One step. A step that is not possible changes nothing. -/
def step : Action → Crowd
  | .pass ms => { crowd with traffic := crowd.traffic.step settings (.pass ms) }
  | .openSession => { crowd with traffic := crowd.traffic.step settings .openSession }
  | .purge => { crowd with traffic := crowd.traffic.step settings .purge }
  | .look request => crowd.look request
  | .judge i => crowd.judge settings i
  | .remove i => crowd.remove i
  | .accept i => crowd.accept i
  | .enter i => { crowd with traffic := crowd.traffic.step settings (.enter i) }
  | .hear i authority => { crowd with traffic := crowd.traffic.step settings (.hear i authority) }
  | .leave i => crowd.leave i

/-- Any number of steps. -/
def run (actions : List Action) : Crowd := actions.foldl (step settings) crowd

end Crowd

/-! ## Removal -/

namespace Registry

variable {registry : Registry} {k : Ticket} {id : SessionId}

/-- A session that is not listed cannot be removed. -/
theorem unlist_of_not_listed {e : Entry} (hk : registry.get? k = some e) (hl : e.isListed = false) :
    registry.unlist k = registry := by
  rcases registry with ⟨entries⟩
  simp only [unlist, update, get?, mk.injEq] at hk ⊢
  apply List.ext_getElem?
  intro j
  rw [List.getElem?_modify]
  split
  · subst_vars
    rw [hk]
    simp [← hl]
  · simp

/-- A session whose id addresses another one by now was removed before. -/
theorem remove_eq_unlist (h : registry.Unambiguous) {e : Entry} (hk : registry.get? k = some e)
    (hid : e.session.id = id) : registry.remove id k = registry.unlist k := by
  unfold remove
  split
  · rfl
  · rename_i hne
    refine (unlist_of_not_listed hk ?_).symm
    rw [← Bool.not_eq_true]
    exact fun hl => hne ((find?_eq_some_iff h).mpr ⟨e, hk, hl, hid⟩)

end Registry

end EnclaveGate
