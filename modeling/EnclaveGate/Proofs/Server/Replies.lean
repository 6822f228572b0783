import EnclaveGate.Proofs.Server.Reaction
import EnclaveGate.Schedule

/-!
# What turns are answered with

A server that does one thing after the other answers each of its turns: with a challenge where a
session is opened, with a count where sessions are removed, and with the answer to a request.
-/

namespace EnclaveGate

/-- What a turn is answered with, where requests are answered in some form. -/
inductive Server.Reply (α : Type)
  /-- Time has passed. -/
  | passed
  /-- A session was opened, or not. -/
  | opened (result : Except Error Challenge)
  /-- So many sessions were removed. -/
  | purged (count : Nat)
  /-- A request was answered. -/
  | answered (answer : α)

namespace Server

/-- The same reply with the answer to a request in another form. -/
def Reply.map {α β : Type} (f : α → β) : Reply α → Reply β
  | passed => passed
  | opened result => opened result
  | purged count => purged count
  | answered answer => answered (f answer)

variable (settings : Settings)

/-- What a turn is answered with. -/
def reply (server : Server) : Turn → Reply Answered
  | .pass _ => .passed
  | .openSession => .opened (server.openSession settings).1
  | .purge => .purged (server.purge settings).1
  | .handle request authority => .answered ⟨request, (server.handle settings authority request).1⟩

/-- What any number of turns are answered with. -/
def replies (server : Server) : List Turn → List (Reply Answered)
  | [] => []
  | turn :: turns => server.reply settings turn :: (server.turn settings turn).replies turns

theorem turns_cons (server : Server) (turn : Turn) (turns : List Turn) :
    server.turns settings (turn :: turns) = (server.turn settings turn).turns settings turns := rfl

theorem turns_append (server : Server) (before after : List Turn) :
    server.turns settings (before ++ after) =
      (server.turns settings before).turns settings after :=
  List.foldl_append ..

theorem replies_append (server : Server) (before after : List Turn) :
    server.replies settings (before ++ after) =
      server.replies settings before ++ (server.turns settings before).replies settings after := by
  induction before generalizing server with
  | nil => rfl
  | cons turn before ih => simp only [List.cons_append, replies, ih, turns_cons]

end Server

end EnclaveGate
