import EnclaveGate.Crypto.Modular
import EnclaveGate.Bytes.Basic
import EnclaveGate.Randomness

/-!
# The curve P-256

Points of `y ^ 2 = x ^ 3 - 3 x + b` over a prime field, with the group law of chords and tangents in
affine coordinates. A public key is a point other than the neutral one, together with the fact that
it lies on the curve; a secret key is a nonzero residue modulo the order of the generator.
-/

namespace EnclaveGate.P256

/-- The field has `2 ^ 256 - 2 ^ 224 + 2 ^ 192 + 2 ^ 96 - 1` elements. -/
def prime : Nat := 0xffffffff00000001000000000000000000000000ffffffffffffffffffffffff

/-- The order of the generator. -/
def order : Nat := 0xffffffff00000000ffffffffffffffffbce6faada7179e84f3b9cac2fc632551

instance : @NeZero Nat (@Zero.ofOfNat0 Nat _) prime := ⟨by decide⟩

instance : @NeZero Nat (@Zero.ofOfNat0 Nat _) order := ⟨by decide⟩

theorem prime_lt : prime < Bytes.bound 32 := by decide

theorem order_lt : order < Bytes.bound 32 := by decide

/-- An element of the field. -/
abbrev Coordinate := Fin prime

/-- A residue modulo the order of the generator. -/
abbrev Scalar := Fin order

/-- The constant term of the curve. -/
def coefficientB : Coordinate :=
  ⟨0x5ac635d8aa3a93e7b3ebbd55769886bc651d06b0cc53b0f63bce3c3e27d2604b, by decide⟩

/-- The right-hand side of the curve equation. -/
def rightSide (x : Coordinate) : Coordinate := x * x * x - 3 * x + coefficientB

/-- Whether a pair of coordinates satisfies the curve equation. -/
def OnCurve (x y : Coordinate) : Prop := y * y = rightSide x

instance (x y : Coordinate) : Decidable (OnCurve x y) := inferInstanceAs (Decidable (_ = _))

/-! ## The group -/

/-- A point of the projective plane that the group law works on. -/
inductive Point
  /-- The neutral element. -/
  | infinity
  /-- A point with coordinates. -/
  | affine (x y : Coordinate)
deriving DecidableEq

namespace Point

/-- The reflection in the first axis of the third point of the line of the given slope through two
points. -/
def onLine (slope x₁ y₁ x₂ : Coordinate) : Point :=
  let x₃ := slope * slope - x₁ - x₂
  affine x₃ (slope * (x₁ - x₃) - y₁)

/-- The sum of a point with itself. -/
def double : Point → Point
  | infinity => infinity
  | affine x y =>
    if y = 0 then infinity
    else onLine ((3 * (x * x) - 3) * Modular.inverse (2 * y)) x y x

/-- The sum of two points. -/
def add : Point → Point → Point
  | infinity, q => q
  | p, infinity => p
  | affine x₁ y₁, affine x₂ y₂ =>
    if x₁ = x₂ then
      if y₁ = y₂ then double (affine x₁ y₁) else infinity
    else onLine ((y₂ - y₁) * Modular.inverse (x₂ - x₁)) x₁ y₁ x₂

/-- The multiple of a point by the lowest `bits` bits of `k`. -/
def multipleBits (p : Point) : Nat → Nat → Point
  | 0, _ => infinity
  | bits + 1, k =>
    let half := multipleBits p bits (k / 2)
    if k % 2 = 1 then (half.double).add p else half.double

/-- The multiple `k • p`. -/
def multiple (k : Nat) (p : Point) : Point := multipleBits p (k.log2 + 1) k

/-- The first coordinate, zero for the neutral element. -/
def xCoordinate : Point → Coordinate
  | infinity => 0
  | affine x _ => x

end Point

/-- The generator of the group. -/
def generator : Point :=
  .affine ⟨0x6b17d1f2e12c4247f8bce6e563a440f277037d812deb33a0f4a13945d898c296, by decide⟩
    ⟨0x4fe342e2fe1a7f9b8ee7eb4a7c0f9e162bce33576b315ececbb6406837bf51f5, by decide⟩

/-! ## Keys -/

/-- A public key: a point of the curve other than the neutral one. -/
structure PublicKey where
  /-- First coordinate. -/
  x : Coordinate
  /-- Second coordinate. -/
  y : Coordinate
  /-- The point lies on the curve. -/
  onCurve : OnCurve x y
deriving DecidableEq

namespace PublicKey

/-- The point of the key. -/
def point (key : PublicKey) : Point := .affine key.x key.y

/-- The key with the given coordinates, if they lie on the curve. -/
def ofCoordinates? (x y : Coordinate) : Option PublicKey :=
  if h : OnCurve x y then some ⟨x, y, h⟩ else none

/-- The key at a point, if there is one. -/
def ofPoint? : Point → Option PublicKey
  | .infinity => none
  | .affine x y => ofCoordinates? x y

/-- The key with two numbers as coordinates, if both are reduced and lie on the curve. -/
def ofNats? (x y : Nat) : Option PublicKey :=
  if hx : x < prime then
    if hy : y < prime then ofCoordinates? ⟨x, hx⟩ ⟨y, hy⟩ else none
  else none

end PublicKey

/-- A secret key: a nonzero scalar. -/
structure SecretKey where
  /-- The scalar. -/
  scalar : Scalar
  /-- The scalar is not zero. -/
  ne_zero : scalar ≠ 0
deriving DecidableEq

namespace SecretKey

/-- The key with a number as scalar, if it lies between 1 and the order. -/
def ofNat? (v : Nat) : Option SecretKey :=
  if h : v < order then
    if h0 : (⟨v, h⟩ : Scalar) ≠ 0 then some ⟨⟨v, h⟩, h0⟩ else none
  else none

/-- The public key that belongs to a secret key. -/
def publicKey? (key : SecretKey) : Option PublicKey :=
  PublicKey.ofPoint? (generator.multiple key.scalar)

/-- The first coordinate of the product of our key and the peer's. -/
def sharedCoordinate (mine : SecretKey) (peer : PublicKey) : Coordinate :=
  (peer.point.multiple mine.scalar).xCoordinate

/-- Draws 32 bytes at a time until they are a key, most significant byte first; at most `tries`
times. -/
def drawUpTo : Nat → Tape → Option (SecretKey × Tape)
  | 0, _ => none
  | tries + 1, tape =>
    match tape.draw? 32 with
    | none => none
    | some (bytes, rest) =>
      match ofNat? bytes.natBE with
      | some key => some (key, rest)
      | none => drawUpTo tries rest

/-- A random key, unless the tape ends first. -/
def draw? (tape : Tape) : Option (SecretKey × Tape) := drawUpTo (tape.size / 32) tape

end SecretKey

end EnclaveGate.P256
