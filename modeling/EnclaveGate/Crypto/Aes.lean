import EnclaveGate.Crypto.Rijndael

/-!
# AES with 128-bit keys

A block holds four columns of four bytes. Ten rounds substitute bytes, rotate rows, mix columns (but
for the last round) and add a round key; each of these four layers is a bijection of blocks, and so
is the cipher under any key.
-/

namespace EnclaveGate.Aes

open Rijndael

/-- Replaces every byte by its substitution. -/
def subBytes (s : Block 16) : Block 16 := s.map substitute

/-- Rotates row `r` of the four rows to the left by `r` columns. -/
def shiftRows (s : Block 16) : Block 16 :=
  Vector.ofFn fun i => s[(i.val + 4 * (i.val % 4)) % 16]

/-- One byte of a mixed column, from the column rotated so that this byte comes first. -/
def mixByte (b₀ b₁ b₂ b₃ : UInt8) : UInt8 := double b₀ ^^^ (double b₁ ^^^ b₁) ^^^ b₂ ^^^ b₃

/-- Multiplies every column by the fixed circulant matrix of the cipher. -/
def mixColumns (s : Block 16) : Block 16 :=
  Vector.ofFn fun i =>
    let column := i.val / 4 * 4
    mixByte s[column + i.val % 4] s[column + (i.val + 1) % 4] s[column + (i.val + 2) % 4]
      s[column + (i.val + 3) % 4]

/-! ## Round keys -/

/-- The eleven round keys. -/
structure RoundKeys where
  /-- The key added before the first round. -/
  first : Block 16
  /-- The keys of the nine full rounds. -/
  middle : List (Block 16)
  /-- The key of the last round, which mixes no columns. -/
  last : Block 16

/-- The round key that follows a round key. -/
def nextRoundKey (k : Block 16) (constant : UInt8) : Block 16 :=
  let w₀ : Block 4 := #v[k[0] ^^^ substitute k[13] ^^^ constant, k[1] ^^^ substitute k[14],
    k[2] ^^^ substitute k[15], k[3] ^^^ substitute k[12]]
  let w₁ : Block 4 := #v[w₀[0] ^^^ k[4], w₀[1] ^^^ k[5], w₀[2] ^^^ k[6], w₀[3] ^^^ k[7]]
  let w₂ : Block 4 := #v[w₁[0] ^^^ k[8], w₁[1] ^^^ k[9], w₁[2] ^^^ k[10], w₁[3] ^^^ k[11]]
  let w₃ : Block 4 := #v[w₂[0] ^^^ k[12], w₂[1] ^^^ k[13], w₂[2] ^^^ k[14], w₂[3] ^^^ k[15]]
  w₀ ++ w₁ ++ w₂ ++ w₃

/-- The next `n` round keys after `k`, with the round constants from `constant` on. -/
def roundKeysFrom : Nat → Block 16 → UInt8 → List (Block 16)
  | 0, _, _ => []
  | n + 1, k, constant =>
    let k' := nextRoundKey k constant
    k' :: roundKeysFrom n k' (double constant)

/-- The round keys of a cipher key. -/
def expand (key : Block 16) : RoundKeys :=
  let keys := roundKeysFrom 10 key 1
  ⟨key, keys.dropLast, keys.getLastD key⟩

/-! ## The cipher -/

/-- A full round. -/
def round (s k : Block 16) : Block 16 := (mixColumns (shiftRows (subBytes s))).xor k

/-- Enciphers one block under expanded keys. -/
def encipher (keys : RoundKeys) (s : Block 16) : Block 16 :=
  (shiftRows (subBytes (keys.middle.foldl round (s.xor keys.first)))).xor keys.last

/-- Enciphers one block under a key. -/
def encrypt (key s : Block 16) : Block 16 := encipher (expand key) s

end EnclaveGate.Aes
