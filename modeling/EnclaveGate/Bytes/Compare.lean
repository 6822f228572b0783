import EnclaveGate.Bytes.Basic

/-!
# Comparing secrets

Tags and bindings are compared without stopping at the first difference: the differences of all
positions are collected in one byte, which is zero exactly for equal strings.
-/

namespace EnclaveGate.Bytes

/-- All bits in which two strings of one length differ, collected in one byte. -/
def difference (a b : Bytes) : UInt8 := (xor a b).foldl (· ||| ·) 0

/-- Whether two strings are equal, by a pass over all of both. -/
def constantTimeEq (a b : Bytes) : Bool := a.length == b.length && difference a b == 0

end EnclaveGate.Bytes
