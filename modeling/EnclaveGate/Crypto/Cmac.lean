import EnclaveGate.Crypto.Aes
import EnclaveGate.Bytes.Compare

/-!
# CMAC

The authentication code of a message chains a block cipher over the blocks of the message. The last
block is masked with one of two subkeys: the first if the block is whole, the second if it had to be
filled up with a one bit and zero bits. Everything up to `mac` takes the block cipher as an
argument.
-/

namespace EnclaveGate.Cmac

/-- The product with `x` in the field of 128-bit blocks, most significant bit first. -/
def double (b : Block 16) : Block 16 :=
  let v := b.natBE
  Block.ofNatBE 16 (if 2 * v < Bytes.bound 16 then 2 * v else 2 * v ^^^ 0x87)

/-- The mask of a whole last block. -/
def wholeMask (E : Block 16 → Block 16) : Block 16 := double (E (Block.zero 16))

/-- The mask of a last block that was filled up. -/
def filledMask (E : Block 16 → Block 16) : Block 16 := double (wholeMask E)

/-- A string of fewer than 16 bytes filled up with a one bit and zero bits; of a longer string the
first 16 bytes. -/
def fill (bs : Bytes) : Block 16 :=
  Block.ofList ((bs ++ 0x80 :: List.replicate 15 0).take 16) (by simp)

/-- The masked last block of a message, from its last at most 16 bytes. -/
def lastBlock (E : Block 16 → Block 16) (bs : Bytes) : Block 16 :=
  if bs.length = 16 then (fill bs).xor (wholeMask E) else (fill bs).xor (filledMask E)

/-- Chains the pieces of a message from `state` on; an empty message has one empty piece. -/
def chain (E : Block 16 → Block 16) (state : Block 16) : List Bytes → Block 16
  | [] => E (state.xor (lastBlock E []))
  | [piece] => E (state.xor (lastBlock E piece))
  | piece :: rest => chain E (E (state.xor (fill piece))) rest

/-- The authentication code under a block cipher. -/
def macWith (E : Block 16 → Block 16) (message : Bytes) : Block 16 :=
  chain E (Block.zero 16) (message.chunks 16)

/-- The authentication code under an AES key. -/
def mac (key : Block 16) (message : Bytes) : Block 16 :=
  let keys := Aes.expand key
  macWith (Aes.encipher keys) message

/-- Whether `tag` is the authentication code of the message. -/
def verify (key : Block 16) (message tag : Bytes) : Bool :=
  Bytes.constantTimeEq (mac key message).toList tag

end EnclaveGate.Cmac
