import EnclaveGate.Crypto.Gcm
import EnclaveGate.Error
import EnclaveGate.KeyTree
import EnclaveGate.Randomness

/-!
# The encrypted secret

The secret travels under the session key, encrypted in Galois counter mode with a random
initialisation vector of 12 bytes.
-/

namespace EnclaveGate

/-- A secret encrypted under the session key. -/
structure EncryptedSecret where
  /-- The initialisation vector. -/
  iv : Block 12
  /-- The ciphertext. -/
  ciphertext : Bytes
  /-- The tag of the ciphertext. -/
  tag : Block 16
deriving DecidableEq

namespace EncryptedSecret

/-- Encrypts under a given initialisation vector. -/
def encryptWith (sk : DerivedKey) (iv : Block 12) (plaintext : Bytes) :
    Except Error EncryptedSecret :=
  match Gcm.encrypt? sk.bytes iv plaintext with
  | some (ciphertext, tag) => .ok ⟨iv, ciphertext, tag⟩
  | none => .error (.crypto .encryption)

/-- Encrypts under a vector drawn from the tape; where too few bytes are left, none is taken. -/
def encrypt (sk : DerivedKey) (plaintext : Bytes) (tape : Tape) :
    Except Error EncryptedSecret × Tape :=
  match tape.draw? 12 with
  | none => (.error .randomness, tape)
  | some (iv, rest) => (encryptWith sk iv plaintext, rest)

/-- Decrypts, if the tag is right. -/
def decrypt (sk : DerivedKey) (secret : EncryptedSecret) : Except Error Bytes :=
  match Gcm.decrypt? sk.bytes secret.iv secret.ciphertext secret.tag with
  | some plaintext => .ok plaintext
  | none => .error (.crypto .encryption)

end EncryptedSecret

end EnclaveGate
