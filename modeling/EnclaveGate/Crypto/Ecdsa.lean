import EnclaveGate.Crypto.P256
import EnclaveGate.Crypto.Hmac

/-!
# ECDSA on P-256 with SHA-256

The nonce of a signature is derived from the secret key and the digest by a generator built on HMAC,
so that signing draws no random bytes. A signature is a pair of nonzero scalars; the second one is
not forced into the lower half, and verification accepts both halves.
-/

namespace EnclaveGate.Ecdsa

open P256

/-- A pair of nonzero scalars. -/
structure Signature where
  /-- The scalar of the nonce point. -/
  r : Scalar
  /-- The proof that the nonce and the key belong together. -/
  s : Scalar
  /-- The first scalar is not zero. -/
  r_ne_zero : r ≠ 0
  /-- The second scalar is not zero. -/
  s_ne_zero : s ≠ 0

/-- The signature with two numbers as scalars, if both lie between 1 and the order. -/
def Signature.ofNats? (r s : Nat) : Option Signature :=
  match SecretKey.ofNat? r, SecretKey.ofNat? s with
  | some r, some s => some ⟨r.scalar, s.scalar, r.ne_zero, s.ne_zero⟩
  | _, _ => none

/-! ## Nonces -/

/-- The state of the nonce generator. -/
structure Generator where
  /-- The key of the authentication code. -/
  key : Block 32
  /-- The value that is fed back. -/
  value : Block 32

namespace Generator

/-- Feeds a separator byte and a seed into the generator. -/
def feed (g : Generator) (separator : UInt8) (seed : Bytes) : Generator :=
  let key := Hmac.mac g.key.toList (g.value.toList ++ separator :: seed)
  ⟨key, Hmac.mac key.toList g.value.toList⟩

/-- The generator for a secret key and a digest. -/
def start (seed : Bytes) : Generator :=
  ((⟨Block.zero 32, Vector.replicate 32 1⟩ : Generator).feed 0 seed).feed 1 seed

/-- The next candidate, out of at most `tries`, that is a nonzero scalar. -/
def next? (g : Generator) : Nat → Option SecretKey
  | 0 => none
  | tries + 1 =>
    let value := Hmac.mac g.key.toList g.value.toList
    match SecretKey.ofNat? value.natBE with
    | some k => some k
    | none => (Generator.feed ⟨g.key, value⟩ 0 []).next? tries

end Generator

/-- The digest of a message as a scalar. -/
def digestScalar (message : Bytes) : Scalar := Fin.ofNat order (Sha256.digest message).natBE

/-- How many candidates for a nonce are looked at; each fails with probability below `2 ^ -32`. -/
def nonceTries : Nat := 64

/-- The nonce of a signature. -/
def nonce? (key : SecretKey) (digest : Scalar) : Option SecretKey :=
  (Generator.start (Bytes.beBytes 32 key.scalar ++ Bytes.beBytes 32 digest)).next? nonceTries

/-! ## Signatures -/

/-- The residue of a coordinate modulo the order. -/
def Scalar.ofCoordinate (x : Coordinate) : Scalar := Fin.ofNat order x

/-- The signature of a digest with a given nonce, unless a scalar comes out zero. -/
def signWith? (key nonce : SecretKey) (digest : Scalar) : Option Signature :=
  let r := Scalar.ofCoordinate (generator.multiple nonce.scalar).xCoordinate
  let s := Modular.inverse nonce.scalar * (digest + r * key.scalar)
  if hr : r ≠ 0 then
    if hs : s ≠ 0 then some ⟨r, s, hr, hs⟩ else none
  else none

/-- The signature of a message, unless a scalar comes out zero. -/
def sign? (key : SecretKey) (message : Bytes) : Option Signature :=
  let digest := digestScalar message
  match nonce? key digest with
  | none => none
  | some nonce => signWith? key nonce digest

/-- Whether a signature of a digest belongs to a public key. -/
def verifyDigest (key : PublicKey) (digest : Scalar) (signature : Signature) : Bool :=
  let w := Modular.inverse signature.s
  let sum := (generator.multiple (digest * w).val).add (key.point.multiple (signature.r * w).val)
  sum != .infinity && Scalar.ofCoordinate sum.xCoordinate == signature.r

/-- Whether a signature of a message belongs to a public key. -/
def verify (key : PublicKey) (message : Bytes) (signature : Signature) : Bool :=
  verifyDigest key (digestScalar message) signature

end EnclaveGate.Ecdsa
