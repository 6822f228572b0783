import EnclaveGate.Error

/-!
# Coordinates on the wire

A coordinate is an unsigned number of at most 32 bytes. On the wire it has exactly 32 bytes, least
significant byte first: the natural form, most significant byte first, is filled up on its left side
and only then reversed.
-/

namespace EnclaveGate.Wire

/-- The form without leading zero bytes. -/
def stripZeros (natural : Bytes) : Bytes := natural.dropWhile (· == 0)

/-- The wire form of a coordinate in natural form, which may have any number of leading zeros. -/
def encodeCoordinate (natural : Bytes) : Except Error (Block 32) :=
  let minimal := stripZeros natural
  if h : minimal.length ≤ 32 then
    .ok (Block.ofList (List.replicate (32 - minimal.length) 0 ++ minimal).reverse
      (by rw [List.length_reverse, List.length_append, List.length_replicate]; omega))
  else .error (.crypto .coordinateTooLarge)

/-- The natural form of a wire coordinate, with all its 32 bytes. -/
def decodeCoordinate (wire : Block 32) : Block 32 := wire.reverse

/-- The natural form of a number: no leading zero byte, but one byte for zero. -/
def naturalBytes (v : Nat) : Bytes := Bytes.beBytes (v.log2 / 8 + 1) v

/-- The wire form of a pair of numbers, the first one first to fail. -/
def encodePoint (x y : Nat) : Except Error (Block 32 × Block 32) := do
  let x ← encodeCoordinate (naturalBytes x)
  let y ← encodeCoordinate (naturalBytes y)
  return (x, y)

/-- The pair of numbers with the given wire form. -/
def decodePoint (x y : Block 32) : Nat × Nat :=
  ((decodeCoordinate x).natBE, (decodeCoordinate y).natBE)

end EnclaveGate.Wire
