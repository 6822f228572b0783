import EnclaveGate.Session.Basic

/-!
# The registry of sessions

The registry keeps every session that was opened, in the order of opening. A session is listed until
it ends, is evicted, or is found idle for too long; only listed sessions can be addressed, by their
ids. A ticket is the place of a session in the registry. It names the same session for ever, so work
that began while a session was listed can end after the session was removed, and even after its id
was given to another one.
-/

namespace EnclaveGate

/-- A session in the registry. -/
structure Entry where
  /-- The session. -/
  session : Session
  /-- When a message last reached the session. -/
  lastActive : Nat
  /-- Whether the session can be addressed. -/
  isListed : Bool
deriving DecidableEq

/-- Whether a session was idle for longer than a limit. -/
def Entry.isExpired (limit : Option Nat) (now : Nat) (entry : Entry) : Bool :=
  match limit with
  | none => false
  | some limit => limit < now - entry.lastActive

/-- The place of a session in the registry. -/
abbrev Ticket := Nat

/-- Every session that was opened. -/
structure Registry where
  /-- The sessions in the order of opening. -/
  entries : List Entry
deriving DecidableEq

namespace Registry

/-- The registry without sessions. -/
def empty : Registry := ⟨[]⟩

variable (registry : Registry)

/-- The sessions that can be addressed. -/
def table : List Entry := registry.entries.filter (·.isListed)

/-- How many sessions can be addressed. -/
def size : Nat := registry.table.length

@[simp] theorem table_empty : empty.table = [] := rfl

/-- The ticket of the session that an id addresses. -/
def find? (id : SessionId) : Option Ticket :=
  registry.entries.findIdx? fun e => e.isListed && e.session.id == id

/-- The session with a ticket. -/
def get? (ticket : Ticket) : Option Entry := registry.entries[ticket]?

/-- Whether an id addresses a session, be it expired or not. -/
def hasId (id : SessionId) : Bool := (registry.find? id).isSome

/-! ## Changing one session -/

/-- Changes the entry with a ticket. -/
def update (ticket : Ticket) (f : Entry → Entry) : Registry := ⟨registry.entries.modify ticket f⟩

/-- A change of one entry leaves all others as they were. -/
theorem get?_update (ticket t : Ticket) (f : Entry → Entry) :
    (registry.update ticket f).get? t =
      if ticket = t then (registry.get? t).map f else registry.get? t := by
  rw [update, get?, get?, List.getElem?_modify]
  split <;> simp

/-- A message reached a session. -/
def touch (ticket : Ticket) (now : Nat) : Registry :=
  registry.update ticket fun e => { e with lastActive := now }

/-- Replaces a session by what has become of it, which is a sign of activity. -/
def store (ticket : Ticket) (session : Session) (now : Nat) : Registry :=
  registry.update ticket fun e => { e with session, lastActive := now }

/-- The session with a ticket can no longer be addressed. -/
def unlist (ticket : Ticket) : Registry :=
  registry.update ticket fun e => { e with isListed := false }

/-- Adds a session that can be addressed. -/
def add (session : Session) (now : Nat) : Registry :=
  ⟨registry.entries ++ [⟨session, now, true⟩]⟩

/-- A new session is listed behind all others. -/
@[simp] theorem table_add (session : Session) (now : Nat) :
    (registry.add session now).table = registry.table ++ [⟨session, now, true⟩] := by
  simp [add, table]

@[simp] theorem size_add (session : Session) (now : Nat) :
    (registry.add session now).size = registry.size + 1 := by
  simp [size]

/-! ## Idle sessions -/

/-- Whether an id addresses a session that was not idle for too long. -/
def contains (settings : Settings) (now : Nat) (id : SessionId) : Bool :=
  match (registry.find? id).bind registry.get? with
  | some entry => !entry.isExpired settings.sessionTimeout now
  | none => false

/-- How many listed sessions were idle for too long. -/
def countExpired (settings : Settings) (now : Nat) : Nat :=
  registry.table.countP (·.isExpired settings.sessionTimeout now)

/-- Removes all sessions that were idle for too long. -/
def dropExpired (settings : Settings) (now : Nat) : Registry :=
  ⟨registry.entries.map fun e =>
    if e.isExpired settings.sessionTimeout now then { e with isListed := false } else e⟩

/-- What is dropped from the table is what was idle for too long; the rest keeps its order. -/
theorem table_dropExpired (settings : Settings) (now : Nat) :
    (registry.dropExpired settings now).table =
      registry.table.filter (!·.isExpired settings.sessionTimeout now) := by
  simp only [table, dropExpired]
  induction registry.entries with
  | nil => rfl
  | cons e es ih =>
    by_cases expired : e.isExpired settings.sessionTimeout now
    · by_cases listed : e.isListed <;> simp [expired, listed, ih]
    · by_cases listed : e.isListed <;> simp [expired, listed, ih]

/-! ## Making room -/

/-- The first of the listed sessions that were least recently active. -/
def oldest? : Option Ticket :=
  match (registry.table.map (·.lastActive)).min? with
  | none => none
  | some least => registry.entries.findIdx? fun e => e.isListed && e.lastActive == least

/-- The id of the session with a ticket. -/
def idOf (ticket : Ticket) : SessionId :=
  match registry.get? ticket with
  | some entry => entry.session.id
  | none => 0

end Registry

/-- Evicts a number of sessions, least recently active ones first. -/
def Registry.evict : Nat → Registry → Registry × List Event
  | 0, registry => (registry, [])
  | n + 1, registry =>
    match registry.oldest? with
    | none => (registry, [])
    | some ticket =>
      let (rest, events) := evict n (registry.unlist ticket)
      (rest, .evicted (registry.idOf ticket) :: events)

/-- Makes room for one more session where the number of sessions is capped: sessions that were idle
for too long go first, then the least recently active ones. -/
def Registry.makeRoom (settings : Settings) (now : Nat) (registry : Registry) :
    Registry × List Event :=
  match settings.maxSessions with
  | none => (registry, [])
  | some cap =>
    if registry.size < cap then (registry, [])
    else
      let kept := registry.dropExpired settings now
      kept.evict (kept.size + 1 - cap)

end EnclaveGate
