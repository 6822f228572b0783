import EnclaveGate.Error
import EnclaveGate.Message.Basic
import EnclaveGate.Verdict.Basic

/-!
# The attestation authority

The authority is asked to judge a quote or to name the revocation list of a group. Its answer takes
time, and a server waits for it only so long: an answer that comes later than the limit counts as a
timeout. An answer that takes no time is never too late.
-/

namespace EnclaveGate

/-- What the authority is asked. -/
inductive Question
  /-- What it says about a quote. -/
  | verdict (quote : Bytes)
  /-- The revocation list of a group. -/
  | revocationList (groupId : GroupId)
deriving DecidableEq

/-- An answer and how many milliseconds it takes. -/
structure Reply (α : Type) where
  /-- How long the answer takes. -/
  delay : Nat
  /-- The answer, or the failure of the authority. -/
  answer : Except Error α

namespace Reply

variable {α : Type}

/-- How long a server with the given limit waits. -/
def wait (reply : Reply α) (limit : Nat) : Nat := min reply.delay limit

/-- Whether the answer comes within the limit. -/
def inTime (reply : Reply α) (limit : Nat) : Bool := reply.delay ≤ limit

/-- What a server with the given limit gets. The limit in the error is cut to 64 bits. -/
def within (reply : Reply α) (limit : Nat) : Except Error α :=
  if reply.inTime limit then reply.answer else .error (.timeout (UInt64.ofNat limit))

end Reply

/-- An authority that answers the same question always in the same way. -/
structure Authority where
  /-- What it says about a quote. -/
  verdict : Bytes → Reply QuoteVerdict
  /-- The revocation list of a group. -/
  revocationList : GroupId → Reply Bytes

/-- An authority that fails at once. -/
instance : Inhabited Authority :=
  ⟨fun _ => ⟨0, .error .randomness⟩, fun _ => ⟨0, .error .randomness⟩⟩

end EnclaveGate
