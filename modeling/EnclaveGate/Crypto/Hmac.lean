import EnclaveGate.Crypto.Sha256

/-!
# HMAC with SHA-256

A key of at most 64 bytes, filled up with zero bytes, is mixed into an inner and an outer hash with
two different paddings. A longer key is replaced by its digest.
-/

namespace EnclaveGate.Hmac

/-- The key as 64 bytes. -/
def keyBlock (key : Bytes) : Bytes :=
  let short := if key.length ≤ 64 then key else (Sha256.digest key).toList
  short ++ List.replicate (64 - short.length) 0

/-- The authentication code of a message. -/
def mac (key message : Bytes) : Block 32 :=
  let k := keyBlock key
  let inner := Sha256.digest (k.map (· ^^^ 0x36) ++ message)
  Sha256.digest (k.map (· ^^^ 0x5c) ++ inner.toList)

end EnclaveGate.Hmac
