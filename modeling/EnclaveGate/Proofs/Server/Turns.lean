import EnclaveGate.Proofs.Registry.Removal

/-!
# Turns and their history

A server that does one thing after the other takes turns. The history of its turns says when sessions
were opened and under which ids, which sessions had to make room, and when a message reached a
session and in which phase it left the session. It does not say what the registry holds.
-/

namespace EnclaveGate

/-- A turn of a server that does one thing after the other. -/
inductive Server.Turn
  /-- Time passes. -/
  | pass (ms : Nat)
  /-- A session is opened. -/
  | openSession
  /-- Sessions that were idle for too long are removed. -/
  | purge
  /-- A request is handled while nothing else happens. -/
  | handle (request : Request) (authority : Authority)

/-- The server after a turn. -/
def Server.turn (settings : Settings) (server : Server) : Server.Turn → Server
  | .pass ms => server.advance ms
  | .openSession => (server.openSession settings).2
  | .purge => (server.purge settings).2
  | .handle request authority => (server.handle settings authority request).2

/-- The server after any number of turns. -/
def Server.turns (settings : Settings) (server : Server) (turns : List Server.Turn) : Server :=
  turns.foldl (Server.turn settings) server

/-! ## Histories -/

/-- Something that happened to a session. -/
inductive Happening
  /-- A session was opened under an id, and the sessions with other ids had to make room. -/
  | opened (time : Nat) (id : SessionId) (evicted : List SessionId)
  /-- A message for an id reached its session, which was in a phase afterwards. -/
  | served (time : Nat) (id : SessionId) (phase : Phase)
deriving DecidableEq

namespace Happening

variable (id : SessionId)

/-- When a session was opened under the id. -/
def opening? : Happening → Option Nat
  | opened time other _ => if other = id then some time else none
  | served .. => none

/-- When a message for the id reached its session. -/
def service? : Happening → Option Nat
  | opened .. => none
  | served time other _ => if other = id then some time else none

/-- Whether the session with the id was over afterwards. -/
def ends : Happening → Bool
  | opened .. => false
  | served _ other phase => other == id && phase.isTerminal

/-- Whether the session with the id had to make room. -/
def evicts : Happening → Bool
  | opened _ _ evicted => evicted.contains id
  | served .. => false

/-- When a session was last opened under an id, and what has happened since. -/
def since? : List Happening → Option (Nat × List Happening)
  | [] => none
  | happening :: later =>
    match since? later with
    | some found => some found
    | none => (happening.opening? id).map fun time => (time, later)

/-- When a session that was opened at a time was last active: then, or when the latest message
reached it. -/
def lastActivity (opening : Nat) (later : List Happening) : Nat :=
  (later.filterMap (·.service? id)).foldl max opening

/-- A session that was opened at a time was not active for longer than the limit. -/
def Idle (settings : Settings) (now opening : Nat) (later : List Happening) : Prop :=
  ∃ limit, settings.sessionTimeout = some limit ∧ limit < now - lastActivity id opening later

/-- No message for the id can reach a session: none was opened under it, or the latest one that was is
over, had to make room, or was not active for longer than the limit. -/
def Gone (settings : Settings) (now : Nat) (history : List Happening) : Prop :=
  ∀ opening later, since? id history = some (opening, later) →
    (∃ happening ∈ later, happening.ends id = true) ∨
    (∃ happening ∈ later, happening.evicts id = true) ∨
    Idle id settings now opening later

end Happening

namespace Server

variable (settings : Settings) (server : Server)

/-- The ids of the sessions that have to make room when a session is opened, as they are reported. -/
def evictions : List SessionId :=
  ((server.openSession settings).2.journal.drop server.journal.length).filterMap Event.evicted?

/-- What happens to sessions in a turn. -/
def happenings : Turn → List Happening
  | .pass _ | .purge => []
  | .openSession =>
    match server.openSession settings with
    | (.ok challenge, after) =>
      [.opened after.now challenge.sessionId (server.evictions settings)]
    | (.error _, _) => []
  | .handle request authority =>
    let after := (server.handle settings authority request).2
    match (server.route settings request.sessionId).1.toOption.bind after.registry.get? with
    | some entry => [.served after.now request.sessionId entry.session.phase]
    | none => []

/-- What happens to sessions in any number of turns. -/
def history (server : Server) : List Turn → List Happening
  | [] => []
  | turn :: turns => server.happenings settings turn ++ (server.turn settings turn).history turns

end Server

/-! ## Longer histories -/

namespace Happening

variable (id : SessionId)

/-- What happens without another opening happened since. -/
theorem since?_append (history : List Happening) {happened : List Happening}
    (h : ∀ happening ∈ happened, happening.opening? id = none) :
    since? id (history ++ happened) =
      (since? id history).map fun found => (found.1, found.2 ++ happened) := by
  induction history with
  | nil =>
    induction happened with
    | nil => rfl
    | cons happening later ih =>
      have hlater : since? id later = none := ih fun x hx => h x (List.mem_cons_of_mem _ hx)
      simp [since?, hlater, h happening List.mem_cons_self]
  | cons happening later ih =>
    rw [List.cons_append, since?, ih, since?]
    cases since? id later with
    | some found => rfl
    | none => cases happening.opening? id <;> rfl

/-- Another opening of a session under the id begins anew. -/
theorem since?_concat (history : List Happening) {last : Happening} {time : Nat}
    (h : last.opening? id = some time) : since? id (history ++ [last]) = some (time, []) := by
  induction history with
  | nil => simp [since?, h]
  | cons happening later ih => rw [List.cons_append, since?, ih]

/-- Without another message the last activity is the same. -/
theorem lastActivity_append (opening : Nat) (later : List Happening) {happened : List Happening}
    (h : ∀ happening ∈ happened, happening.service? id = none) :
    lastActivity id opening (later ++ happened) = lastActivity id opening later := by
  have hnone : happened.filterMap (·.service? id) = [] := List.filterMap_eq_nil_iff.mpr h
  rw [lastActivity, List.filterMap_append, hnone, List.append_nil, lastActivity]

/-- Another message is the last activity, unless it came before. -/
theorem lastActivity_concat (opening : Nat) (later : List Happening) {last : Happening} {time : Nat}
    (h : last.service? id = some time) :
    lastActivity id opening (later ++ [last]) = max (lastActivity id opening later) time := by
  simp [lastActivity, List.filterMap_append, h]

end Happening

end EnclaveGate
