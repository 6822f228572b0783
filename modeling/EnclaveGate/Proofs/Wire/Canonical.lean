import EnclaveGate.Proofs.Crypto.Residue
import EnclaveGate.Proofs.Wire.Codec
import Mathlib.Data.ZMod.Basic
import Mathlib.Tactic.LinearCombination

/-!
# One wire form for every key and signature

A block of a fixed length holds one number only, so a pair of numbers has at most one pair of blocks
that denotes it. Writing finds the blocks, if there are any, and reading the numbers. The wire form of
a public key denotes its coordinates and that of a signature its scalars; every pair of blocks
denotes one of them, unless its numbers are out of range or, for a key, off the curve.
-/

namespace EnclaveGate

/-! ## Numbers -/

namespace Block

variable {n : Nat}

/-- Writing the number of a block in as many bytes gives the block back. -/
theorem ofNatLE_natLE (b : Block n) : ofNatLE n b.natLE = b := by
  apply eq_of_toList_eq
  have h := Bytes.leBytes_natLE b.toList
  rw [Vector.length_toList] at h
  rw [ofNatLE, toList_ofList]
  exact h

theorem natLE_inj {a b : Block n} : a.natLE = b.natLE ↔ a = b := by
  constructor
  · intro h
    rw [← ofNatLE_natLE a, h, ofNatLE_natLE]
  · rintro rfl
    rfl

/-- A number that fits is held by the block in which it is written and by no other. -/
theorem ofNatLE_eq_iff {b : Block n} {v : Nat} (h : v < Bytes.bound n) :
    ofNatLE n v = b ↔ b.natLE = v := by
  rw [← natLE_inj, natLE_ofNatLE, Nat.mod_eq_of_lt h, eq_comm]

theorem natLE_lt (b : Block n) : b.natLE < Bytes.bound n := by
  have h := Bytes.natLE_lt b.toList
  rwa [Vector.length_toList] at h

end Block

namespace Wire

/-- Two blocks denote two numbers. -/
structure Denotes (a b : Block 32) (x y : Nat) : Prop where
  /-- The first number is in the first block. -/
  first : a.natLE = x
  /-- The second number is in the second block. -/
  second : b.natLE = y

variable {a b : Block 32} {x y : Nat}

theorem decodePoint_eq (a b : Block 32) : decodePoint a b = (a.natLE, b.natLE) := by
  rw [decodePoint, natBE_decodeCoordinate, natBE_decodeCoordinate]

/-- Writing finds the block that holds the number. -/
theorem encodeCoordinate_eq_ok_iff {natural : Bytes} :
    encodeCoordinate natural = .ok a ↔ a.natLE = Bytes.natBE natural := by
  by_cases hfits : Bytes.natBE natural < Bytes.bound 32
  · rw [encodeCoordinate_eq hfits, Except.ok.injEq]
    exact Block.ofNatLE_eq_iff hfits
  · have herror := encodeCoordinate_eq_error (Nat.le_of_not_lt hfits)
    rw [herror]
    constructor
    · intro h
      cases h
    · intro h
      have hlt := a.natLE_lt
      omega

/-- Writing two numbers finds the blocks that denote them. -/
theorem encodePoint_eq_ok_iff : encodePoint x y = .ok (a, b) ↔ Denotes a b x y := by
  rw [encodePoint_eq_ok_iff_coordinates, encodeCoordinate_eq_ok_iff, encodeCoordinate_eq_ok_iff,
    natBE_naturalBytes, natBE_naturalBytes]
  exact ⟨fun h => ⟨h.1, h.2⟩, fun h => ⟨h.first, h.second⟩⟩

/-- Reading two blocks finds the numbers that they denote. -/
theorem decodePoint_eq_iff : decodePoint a b = (x, y) ↔ Denotes a b x y := by
  rw [decodePoint_eq, Prod.mk.injEq]
  exact ⟨fun h => ⟨h.1, h.2⟩, fun h => ⟨h.first, h.second⟩⟩

/-- A format in which every value has one form, and which refuses all other forms for one reason. -/
structure Canonical {Form Value : Type} (encode : Value → Except Error Form)
    (decode : Form → Except Error Value) (valid : Form → Prop) (refusal : Error) : Prop where
  /-- A form is read exactly if it is valid. -/
  accepted : ∀ form, (∃ value, decode form = .ok value) ↔ valid form
  /-- Every other form is refused. -/
  refused : ∀ form, ¬ valid form → decode form = .error refusal
  /-- What is read is written as it was. -/
  rewritten : ∀ form value, decode form = .ok value → encode value = .ok form
  /-- Every value is written, and what is written is read. -/
  reread : ∀ value, ∃ form, encode value = .ok form ∧ decode form = .ok value
  /-- No value is read in two forms. -/
  unique : ∀ form other value, decode form = .ok value → decode other = .ok value → form = other

/-- A format is canonical if reading and writing follow one relation in which every value has a
form. -/
theorem Canonical.of_relation {Form Value : Type} {encode : Value → Except Error Form}
    {decode : Form → Except Error Value} {valid : Form → Prop} {refusal : Error}
    (relation : Form → Value → Prop)
    (writes : ∀ form value, encode value = .ok form ↔ relation form value)
    (reads : ∀ form value, decode form = .ok value ↔ relation form value)
    (total : ∀ value, ∃ form, encode value = .ok form)
    (cases : ∀ form, (valid form ∧ ∃ value, decode form = .ok value) ∨
      (¬ valid form ∧ decode form = .error refusal)) :
    Canonical encode decode valid refusal := by
  have rewritten : ∀ form value, decode form = .ok value → encode value = .ok form :=
    fun form value h => (writes form value).mpr ((reads form value).mp h)
  constructor
  case accepted =>
    intro form
    rcases cases form with ⟨hvalid, hread⟩ | ⟨hvalid, hrefused⟩
    · exact iff_of_true hread hvalid
    · rw [hrefused]
      exact iff_of_false (by simp) hvalid
  case refused =>
    intro form hvalid
    rcases cases form with ⟨h, -⟩ | ⟨-, hrefused⟩
    · exact absurd h hvalid
    · exact hrefused
  case rewritten => exact rewritten
  case reread =>
    intro value
    obtain ⟨form, h⟩ := total value
    exact ⟨form, h, (reads form value).mpr ((writes form value).mp h)⟩
  case unique =>
    intro form other value h ho
    have hform := rewritten form value h
    rw [rewritten other value ho] at hform
    exact (Except.ok.inj hform).symm

end Wire

/-! ## Keys -/

namespace P256

open EnclaveGate.Modular

/-- The equation of the curve, on numbers. -/
theorem onCurve_iff {x y : Coordinate} : OnCurve x y ↔
    (y.val : ℤ) ^ 2 ≡ (x.val : ℤ) ^ 3 - 3 * x.val + coefficientB.val [ZMOD prime] := by
  have h3 : residue (3 : Coordinate) = 3 := residue_ofNat 3
  rw [OnCurve, ← residue_inj, rightSide, residue_add, residue_sub, residue_mul, residue_mul,
    residue_mul, residue_mul, h3, ← ZMod.intCast_eq_intCast_iff]
  simp only [residue, Int.cast_pow, Int.cast_add, Int.cast_sub, Int.cast_mul, Int.cast_natCast,
    Int.cast_ofNat]
  constructor
  · intro h
    linear_combination h
  · intro h
    linear_combination h

/-- The key with two numbers as coordinates has them as coordinates. -/
theorem PublicKey.ofNats?_eq_some_iff {x y : Nat} {key : PublicKey} :
    ofNats? x y = some key ↔ x = key.x ∧ y = key.y := by
  constructor
  · intro h
    unfold ofNats? ofCoordinates? at h
    split at h
    · split at h
      · split at h
        · cases h
          exact ⟨rfl, rfl⟩
        · cases h
      · cases h
    · cases h
  · rintro ⟨rfl, rfl⟩
    exact ofNats?_val key

end P256

namespace WireKey

/-- The numbers of a wire form are the coordinates of a key. -/
def Denotes (wire : WireKey) (key : P256.PublicKey) : Prop := Wire.Denotes wire.x wire.y key.x key.y

variable {wire : WireKey} {key : P256.PublicKey}

/-- Writing finds the wire form that denotes the key. -/
theorem encode_eq_ok_iff : encode key = .ok wire ↔ wire.Denotes key := by
  rw [Denotes, ← Wire.encodePoint_eq_ok_iff, encode]
  cases Wire.encodePoint key.x key.y with
  | error e => simp [Except.map]
  | ok p =>
    obtain ⟨x, y⟩ := p
    cases wire
    simp [Except.map]

/-- Reading finds the key that is denoted. -/
theorem decode_eq_ok_iff : wire.decode = .ok key ↔ wire.Denotes key := by
  have hnumbers : wire.Denotes key ↔
      P256.PublicKey.ofNats? wire.x.natLE wire.y.natLE = some key := by
    rw [P256.PublicKey.ofNats?_eq_some_iff]
    exact ⟨fun h => ⟨h.first, h.second⟩, fun h => ⟨h.1, h.2⟩⟩
  rw [hnumbers, decode, Wire.decodePoint_eq]
  dsimp only
  cases P256.PublicKey.ofNats? wire.x.natLE wire.y.natLE with
  | none => simp
  | some found => simp

/-- What the numbers of the wire form of a point satisfy. -/
theorem isCanonical_iff : wire.IsCanonical ↔
    wire.x.natLE < P256.prime ∧ wire.y.natLE < P256.prime ∧
      (wire.y.natLE : ℤ) ^ 2 ≡ (wire.x.natLE : ℤ) ^ 3 - 3 * wire.x.natLE +
        P256.coefficientB.val [ZMOD P256.prime] := by
  constructor
  · rintro ⟨hx, hy, h⟩
    exact ⟨hx, hy, P256.onCurve_iff.mp h⟩
  · rintro ⟨hx, hy, h⟩
    exact ⟨hx, hy, P256.onCurve_iff.mpr h⟩

/-- Public keys have one wire form each, and these forms are the points of the curve. -/
theorem canonical : Wire.Canonical encode decode
    (fun wire => wire.x.natLE < P256.prime ∧ wire.y.natLE < P256.prime ∧
      (wire.y.natLE : ℤ) ^ 2 ≡ (wire.x.natLE : ℤ) ^ 3 - 3 * wire.x.natLE +
        P256.coefficientB.val [ZMOD P256.prime]) .invalidPublicKey := by
  apply Wire.Canonical.of_relation Denotes
  case writes => exact fun _ _ => encode_eq_ok_iff
  case reads => exact fun _ _ => decode_eq_ok_iff
  case total => exact fun key => ⟨key.wire, encode_eq key⟩
  case cases =>
    intro wire
    rw [← isCanonical_iff]
    exact wire.decode_cases

/-- Zero bytes are no public key, since zero is not the constant term of the curve. -/
theorem decode_zero : decode ⟨Block.zero 32, Block.zero 32⟩ = .error .invalidPublicKey := by
  apply canonical.refused
  rintro ⟨-, -, h⟩
  revert h
  decide +kernel

end WireKey

/-! ## Signatures -/

theorem P256.SecretKey.ofNat?_eq_some_iff {v : Nat} {key : SecretKey} :
    ofNat? v = some key ↔ v = key.scalar := by
  constructor
  · intro h
    unfold ofNat? at h
    split at h
    · split at h
      · cases h
        rfl
      · cases h
    · cases h
  · rintro rfl
    exact ofNat?_val key.ne_zero

/-- A number is a scalar of a secret key if it lies between zero and the order. -/
theorem P256.SecretKey.isSome_ofNat?_iff {v : Nat} :
    (ofNat? v).isSome = true ↔ v ∈ Set.Icc 1 (order - 1) := by
  have horder : 0 < order := by decide
  unfold ofNat?
  by_cases hlt : v < order
  · rw [dif_pos hlt]
    by_cases h0 : v = 0
    · simp [h0]
    · have hne : (⟨v, hlt⟩ : Scalar) ≠ 0 := fun h => h0 (congrArg Fin.val h)
      rw [dif_pos hne]
      simp only [Option.isSome_some, Set.mem_Icc, true_iff]
      omega
  · rw [dif_neg hlt]
    simp only [Option.isSome_none, Bool.false_eq_true, Set.mem_Icc, false_iff]
    omega

/-- The signature with two numbers as scalars has them as scalars. -/
theorem Ecdsa.Signature.ofNats?_eq_some_iff {r s : Nat} {signature : Signature} :
    ofNats? r s = some signature ↔ r = signature.r ∧ s = signature.s := by
  constructor
  · intro h
    unfold ofNats? at h
    split at h
    · rename_i rKey sKey hr hs
      cases h
      exact ⟨P256.SecretKey.ofNat?_eq_some_iff.mp hr, P256.SecretKey.ofNat?_eq_some_iff.mp hs⟩
    · cases h
  · rintro ⟨rfl, rfl⟩
    rw [ofNats?, P256.SecretKey.ofNat?_val signature.r_ne_zero,
      P256.SecretKey.ofNat?_val signature.s_ne_zero]

theorem Ecdsa.Signature.isSome_ofNats?_iff {r s : Nat} : (ofNats? r s).isSome = true ↔
    r ∈ Set.Icc 1 (P256.order - 1) ∧ s ∈ Set.Icc 1 (P256.order - 1) := by
  rw [← P256.SecretKey.isSome_ofNat?_iff, ← P256.SecretKey.isSome_ofNat?_iff, ofNats?]
  cases P256.SecretKey.ofNat? r with
  | none => simp
  | some rKey => cases P256.SecretKey.ofNat? s <;> simp

namespace WireSignature

/-- The numbers of a wire form are the scalars of a signature. -/
def Denotes (wire : WireSignature) (signature : Ecdsa.Signature) : Prop :=
  Wire.Denotes wire.r wire.s signature.r signature.s

/-- Both numbers lie between zero and the order. -/
def InRange (wire : WireSignature) : Prop :=
  wire.r.natLE ∈ Set.Icc 1 (P256.order - 1) ∧ wire.s.natLE ∈ Set.Icc 1 (P256.order - 1)

variable {wire : WireSignature} {signature : Ecdsa.Signature}

/-- Writing finds the wire form that denotes the signature. -/
theorem encode_eq_ok_iff : encode signature = .ok wire ↔ wire.Denotes signature := by
  rw [Denotes, ← Wire.encodePoint_eq_ok_iff, encode]
  cases Wire.encodePoint signature.r signature.s with
  | error e => simp [Except.map]
  | ok p =>
    obtain ⟨r, s⟩ := p
    cases wire
    simp [Except.map]

/-- Reading finds the signature that is denoted. -/
theorem decode_eq_ok_iff : wire.decode = .ok signature ↔ wire.Denotes signature := by
  have hnumbers : wire.Denotes signature ↔
      Ecdsa.Signature.ofNats? wire.r.natLE wire.s.natLE = some signature := by
    rw [Ecdsa.Signature.ofNats?_eq_some_iff]
    exact ⟨fun h => ⟨h.first, h.second⟩, fun h => ⟨h.1, h.2⟩⟩
  rw [hnumbers, decode, Wire.decodePoint_eq]
  dsimp only
  cases Ecdsa.Signature.ofNats? wire.r.natLE wire.s.natLE with
  | none => simp
  | some found => simp

/-- Reading gives a signature where there is one, and else says that there is none. -/
theorem decode_cases (wire : WireSignature) :
    (wire.InRange ∧ ∃ signature, wire.decode = .ok signature) ∨
    (¬ wire.InRange ∧ wire.decode = .error (.invalidFormat .signature)) := by
  rw [InRange, ← Ecdsa.Signature.isSome_ofNats?_iff, decode, Wire.decodePoint_eq]
  dsimp only
  cases Ecdsa.Signature.ofNats? wire.r.natLE wire.s.natLE with
  | none => simp
  | some signature => simp

/-- Signatures have one wire form each, and these forms are those in range. -/
theorem canonical : Wire.Canonical encode decode InRange (.invalidFormat .signature) := by
  apply Wire.Canonical.of_relation Denotes
  case writes => exact fun _ _ => encode_eq_ok_iff
  case reads => exact fun _ _ => decode_eq_ok_iff
  case total => exact fun signature => ⟨signature.wire, encode_eq signature⟩
  case cases => exact decode_cases

end WireSignature

end EnclaveGate
