import EnclaveGate.Bytes.Basic

/-!
# Random bytes

Everything random comes from one finite tape of bytes, taken from the front. A draw of more bytes
than are left fails and takes none.
-/

namespace EnclaveGate

/-- The random bytes that are still to be drawn. -/
structure Tape where
  /-- The bytes in the order in which they will be drawn. -/
  bytes : Bytes
deriving DecidableEq

namespace Tape

/-- How many bytes are left. -/
def size (tape : Tape) : Nat := tape.bytes.length

/-- The next `n` bytes and the tape behind them, if so many are left. -/
def draw? (tape : Tape) (n : Nat) : Option (Block n × Tape) :=
  if h : 0 + n ≤ tape.bytes.length then some (tape.bytes.slice 0 n h, ⟨tape.bytes.drop n⟩) else none

theorem draw?_eq_none_iff {tape : Tape} {n : Nat} : tape.draw? n = none ↔ tape.size < n := by
  simp [draw?, size]

/-- A draw splits the tape: what is drawn and what is left make up what was there. -/
theorem bytes_of_draw? {tape rest : Tape} {n : Nat} {b : Block n}
    (h : tape.draw? n = some (b, rest)) :
    tape.bytes = b.toList ++ rest.bytes := by
  unfold draw? at h
  split at h
  · obtain ⟨rfl, rfl⟩ := by simpa using h
    simp
  · simp at h

theorem size_of_draw? {tape rest : Tape} {n : Nat} {b : Block n}
    (h : tape.draw? n = some (b, rest)) :
    tape.size = n + rest.size := by
  simpa [size] using congrArg List.length (bytes_of_draw? h)

end Tape

end EnclaveGate
