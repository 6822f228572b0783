import EnclaveGate.Diagnostic.Key
import EnclaveGate.Session.Basic

/-!
# Diagnostics of sessions

A phase is shown by its name; a handshake also shows its public keys and its group.
-/

namespace EnclaveGate

open Diagnostic

/-- A handshake without its key tree. -/
def Handshake.diagnostic (h : Handshake) : String :=
  record "Handshake"
    [("ga", h.ga.diagnostic), ("gb", h.gb.diagnostic), ("group_id", byteList h.groupId.toList),
      ("kdk", h.kdk.diagnostic), ("smk", h.smk.diagnostic)] false

/-- A phase and what it keeps. -/
def Phase.diagnostic : Phase → String
  | awaitingMsg3 handshake => wrapped "AwaitingMsg3" handshake.diagnostic
  | phase => phase.name

end EnclaveGate
