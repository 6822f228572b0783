import EnclaveGate.Crypto.Aes
import EnclaveGate.Bytes.Compare

/-!
# AES in Galois counter mode

Counter mode adds a keystream to the text, so that enciphering and deciphering are one function. The
tag is a polynomial hash of the ciphertext, masked with the first block of the keystream. There is
no associated data. A plaintext of more than `2 ^ 36` bytes is refused, and so is a ciphertext of
more than `2 ^ 36 + 16`.
-/

namespace EnclaveGate.Gcm

/-! ## The hash -/

/-- A 128-bit string in the order of the field: the most significant bit is the coefficient of 1. -/
abbrev Element := BitVec 128

/-- The element with the bits of a block. -/
def Element.ofBlock (b : Block 16) : Element := BitVec.ofNat 128 b.natBE

/-- The block with the bits of an element. -/
def Element.toBlock (x : Element) : Block 16 := Block.ofNatBE 16 x.toNat

/-- The product with `x`, where `x ^ 128 = x ^ 7 + x ^ 2 + x + 1`. -/
def Element.shift (v : Element) : Element :=
  if v.getLsbD 0 then (v >>> 1) ^^^ (0xe1#128 <<< 120) else v >>> 1

/-- The product of `v` with the coefficients of `y` from number `128 - n` on. -/
def mulFrom : Nat → Element → Element → Element
  | 0, _, _ => 0
  | n + 1, v, y => (if y.getLsbD n then v else 0) ^^^ mulFrom n v.shift y

/-- The product in the field. -/
def mul (x y : Element) : Element := mulFrom 128 x y

/-- Works one piece of at most 16 bytes, filled up with zero bytes, into the hash. -/
def absorb (h : Element) (acc : Element) (piece : Bytes) : Element :=
  mul (acc ^^^ Element.ofBlock (Block.ofList ((piece ++ List.replicate 16 0).take 16) (by simp))) h

/-- The hash of a ciphertext without associated data: its pieces, then the two lengths in bits. -/
def hash (h : Element) (ciphertext : Bytes) : Block 16 :=
  (((ciphertext.chunks 16) ++ [Bytes.beBytes 8 0 ++ Bytes.beBytes 8 (8 * ciphertext.length)]).foldl
    (absorb h) 0).toBlock

/-! ## Counter mode -/

/-- The counter block with the given count, which wraps at 32 bits. -/
def counterBlock (iv : Block 12) (count : Nat) : Block 16 := iv ++ Block.ofNatBE 4 count

/-- Adds to the pieces of a text the keystream from `count` on. -/
def addKeystream (E : Block 16 → Block 16) (iv : Block 12) : Nat → List Bytes → Bytes
  | _, [] => []
  | count, piece :: rest =>
    Bytes.xor piece (E (counterBlock iv count)).toList ++ addKeystream E iv (count + 1) rest

/-- Counter mode from count 2 on; count 1 masks the tag. -/
def counterMode (E : Block 16 → Block 16) (iv : Block 12) (text : Bytes) : Bytes :=
  addKeystream E iv 2 (text.chunks 16)

/-- The tag of a ciphertext. -/
def tag (E : Block 16 → Block 16) (iv : Block 12) (ciphertext : Bytes) : Block 16 :=
  (hash (Element.ofBlock (E (Block.zero 16))) ciphertext).xor (E (counterBlock iv 1))

/-! ## Sealing -/

/-- The longest plaintext, in bytes. -/
def maxPlaintext : Nat := 64 * 1024 * 1024 * 1024

/-- The longest ciphertext that is looked at, in bytes. -/
def maxCiphertext : Nat := maxPlaintext + 16

/-- Ciphertext and tag of a plaintext, unless it is too long. -/
def encrypt? (key : Block 16) (iv : Block 12) (plaintext : Bytes) : Option (Bytes × Block 16) :=
  if plaintext.length ≤ maxPlaintext then
    let keys := Aes.expand key
    let ciphertext := counterMode (Aes.encipher keys) iv plaintext
    some (ciphertext, tag (Aes.encipher keys) iv ciphertext)
  else none

/-- The plaintext of a ciphertext of bearable length whose tag is right. -/
def decrypt? (key : Block 16) (iv : Block 12) (ciphertext : Bytes) (t : Block 16) : Option Bytes :=
  if ciphertext.length ≤ maxCiphertext then
    let keys := Aes.expand key
    if Bytes.constantTimeEq (tag (Aes.encipher keys) iv ciphertext).toList t.toList then
      some (counterMode (Aes.encipher keys) iv ciphertext)
    else none
  else none

end EnclaveGate.Gcm
