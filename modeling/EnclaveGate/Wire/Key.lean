import EnclaveGate.Wire.Coordinate
import EnclaveGate.Crypto.Ecdsa

/-!
# Keys and signatures on the wire

A public key travels as its two coordinates and a signature as its two scalars, each in wire form.
Reading refuses every pair of coordinates that is no point of the curve and every pair of scalars
that is out of range.
-/

namespace EnclaveGate

/-- A public key in wire form. -/
structure WireKey where
  /-- First coordinate. -/
  x : Block 32
  /-- Second coordinate. -/
  y : Block 32
deriving DecidableEq

namespace WireKey

/-- The 64 bytes of the key. -/
def toBytes (key : WireKey) : Bytes := key.x.toList ++ key.y.toList

@[simp] theorem length_toBytes (key : WireKey) : key.toBytes.length = 64 := by simp [toBytes]

/-- The key with the given 64 bytes. -/
def ofBytes (bs : Bytes) (h : bs.length = 64) : WireKey :=
  ⟨bs.slice 0 32 (by omega), bs.slice 32 32 (by omega)⟩

/-- The wire form of a public key. -/
def encode (key : P256.PublicKey) : Except Error WireKey :=
  (Wire.encodePoint key.x key.y).map fun p => ⟨p.1, p.2⟩

/-- The public key with the given wire form, if it is a point of the curve. -/
def decode (wire : WireKey) : Except Error P256.PublicKey :=
  let p := Wire.decodePoint wire.x wire.y
  match P256.PublicKey.ofNats? p.1 p.2 with
  | some key => .ok key
  | none => .error .invalidPublicKey

/-- The wire form of the public key that belongs to a secret key. -/
def ofSecret (key : P256.SecretKey) : Except Error WireKey :=
  match key.publicKey? with
  | some pub => encode pub
  | none => .error .invalidPublicKey

end WireKey

/-- A signature in wire form. -/
structure WireSignature where
  /-- First scalar. -/
  r : Block 32
  /-- Second scalar. -/
  s : Block 32
deriving DecidableEq

namespace WireSignature

/-- The 64 bytes of the signature. -/
def toBytes (signature : WireSignature) : Bytes := signature.r.toList ++ signature.s.toList

@[simp] theorem length_toBytes (signature : WireSignature) : signature.toBytes.length = 64 := by
  simp [toBytes]

/-- The signature with the given 64 bytes. -/
def ofBytes (bs : Bytes) (h : bs.length = 64) : WireSignature :=
  ⟨bs.slice 0 32 (by omega), bs.slice 32 32 (by omega)⟩

/-- The wire form of a signature. -/
def encode (signature : Ecdsa.Signature) : Except Error WireSignature :=
  (Wire.encodePoint signature.r signature.s).map fun p => ⟨p.1, p.2⟩

/-- The signature with the given wire form, if its scalars are in range. -/
def decode (wire : WireSignature) : Except Error Ecdsa.Signature :=
  let p := Wire.decodePoint wire.r wire.s
  match Ecdsa.Signature.ofNats? p.1 p.2 with
  | some signature => .ok signature
  | none => .error (.invalidFormat .signature)

end WireSignature

end EnclaveGate
