import EnclaveGate.Wire.Key

/-!
# Numbers, keys and signatures on the wire

The wire form of a coordinate depends on the number alone, however many zero bytes stand before it.
Every public key and every signature has a wire form, and reading it gives the key or the signature
back.
-/

namespace EnclaveGate

namespace Bytes

theorem bound_eq (n : Nat) : bound n = Nat.pow 256 n := by
  induction n with
  | zero => rfl
  | succ n ih =>
    rw [bound, ih]
    exact Nat.mul_comm ..

theorem natLE_append (a b : Bytes) : natLE (a ++ b) = natLE a + bound a.length * natLE b := by
  induction a with
  | nil => simp [natLE, bound]
  | cons x a ih =>
    simp only [List.cons_append, natLE, ih, List.length_cons, bound, Nat.mul_add, Nat.mul_assoc]
    omega

theorem natLE_replicate_zero (n : Nat) : natLE (List.replicate n 0) = 0 := by
  induction n with
  | zero => rfl
  | succ n ih => simp [List.replicate_succ, natLE, ih]

/-- The first byte has the highest place. -/
theorem natBE_cons (b : UInt8) (bs : Bytes) :
    natBE (b :: bs) = bound bs.length * b.toNat + natBE bs := by
  simp only [natBE, List.reverse_cons, natLE_append, List.length_reverse, natLE, Nat.mul_zero,
    Nat.add_zero]
  exact Nat.add_comm ..

/-- Zero bytes in front do not count. -/
theorem natBE_stripZeros (bs : Bytes) : natBE (Wire.stripZeros bs) = natBE bs := by
  induction bs with
  | nil => rfl
  | cons b bs ih =>
    by_cases hb : b = 0
    · subst hb
      have hs : Wire.stripZeros (0 :: bs) = Wire.stripZeros bs := by simp [Wire.stripZeros]
      rw [hs, ih, natBE_cons]
      simp
    · simp [Wire.stripZeros, hb]

/-- A string without zero bytes in front is no longer than its number needs. -/
theorem length_stripZeros_le {bs : Bytes} {n : Nat} (h : natBE bs < bound n) :
    (Wire.stripZeros bs).length ≤ n := by
  rw [← natBE_stripZeros] at h
  cases hs : Wire.stripZeros bs with
  | nil => simp
  | cons b rest =>
    have hb : b ≠ 0 := by
      have hd := List.head?_dropWhile_not (· == 0) bs
      rw [Wire.stripZeros] at hs
      simp only [hs, List.head?_cons] at hd
      simpa using hd
    have hpos : 0 < b.toNat := by
      rcases Nat.eq_zero_or_pos b.toNat with h0 | h0
      · exact absurd (UInt8.toNat_inj.mp h0) hb
      · exact h0
    -- the first byte alone is worth as much as all longer numbers
    have hge : bound rest.length ≤ natBE (b :: rest) := by
      have hfirst := Nat.mul_le_mul_left (bound rest.length) hpos
      rw [natBE_cons]
      omega
    rw [hs] at h
    have hlt : bound rest.length < bound n := Nat.lt_of_le_of_lt hge h
    rw [bound_eq, bound_eq] at hlt
    exact (Nat.pow_lt_pow_iff_right (by omega)).mp hlt

theorem natBE_lt (bs : Bytes) : natBE bs < bound bs.length := by
  have h := natLE_lt bs.reverse
  rwa [List.length_reverse] at h

theorem bound_le_bound {m n : Nat} (h : m ≤ n) : bound m ≤ bound n := by
  rw [bound_eq, bound_eq]
  exact Nat.pow_le_pow_right (by omega) h

/-- A string without zero bytes in front has as many bytes as its number needs. -/
theorem length_stripZeros_le_iff {bs : Bytes} {n : Nat} :
    (Wire.stripZeros bs).length ≤ n ↔ natBE bs < bound n := by
  constructor
  · intro h
    have hlt := natBE_lt (Wire.stripZeros bs)
    rw [natBE_stripZeros] at hlt
    exact Nat.lt_of_lt_of_le hlt (bound_le_bound h)
  · exact length_stripZeros_le

end Bytes

namespace Wire

/-- The wire form of a coordinate is that of its number. -/
theorem encodeCoordinate_eq {natural : Bytes} (h : Bytes.natBE natural < Bytes.bound 32) :
    encodeCoordinate natural = .ok (Block.ofNatLE 32 (Bytes.natBE natural)) := by
  have hl := Bytes.length_stripZeros_le h
  unfold encodeCoordinate
  rw [dif_pos hl]
  congr 1
  apply Block.eq_of_toList_eq
  simp only [Block.toList_ofList, Block.ofNatLE, List.reverse_append, List.reverse_replicate]
  let wire := (stripZeros natural).reverse ++ List.replicate (32 - (stripZeros natural).length) 0
  have hwire : wire.length = 32 := by
    simp only [wire, List.length_append, List.length_reverse, List.length_replicate]
    omega
  have hnum : Bytes.natLE wire = Bytes.natBE natural := by
    simp only [wire, Bytes.natLE_append, Bytes.natLE_replicate_zero, Nat.mul_zero, Nat.add_zero]
    exact Bytes.natBE_stripZeros natural
  have hback := Bytes.leBytes_natLE wire
  rw [hwire, hnum] at hback
  exact hback.symm

/-- A coordinate whose number does not fit has no wire form. -/
theorem encodeCoordinate_eq_error {natural : Bytes} (h : Bytes.bound 32 ≤ Bytes.natBE natural) :
    encodeCoordinate natural = .error (.crypto .coordinateTooLarge) := by
  have hlong : ¬ (stripZeros natural).length ≤ 32 := by
    rw [Bytes.length_stripZeros_le_iff]
    omega
  unfold encodeCoordinate
  rw [dif_neg hlong]

/-- The natural form of a number has room for it. -/
theorem natBE_naturalBytes (v : Nat) : Bytes.natBE (naturalBytes v) = v := by
  rw [naturalBytes, Bytes.natBE_beBytes]
  apply Nat.mod_eq_of_lt
  have h256 : Bytes.bound (v.log2 / 8 + 1) = 2 ^ (8 * (v.log2 / 8 + 1)) := by
    rw [Bytes.bound_eq, Nat.pow_mul]
    rfl
  rw [h256]
  calc v < 2 ^ (v.log2 + 1) := Nat.lt_log2_self
    _ ≤ 2 ^ (8 * (v.log2 / 8 + 1)) := Nat.pow_le_pow_right (by omega) (by omega)

theorem encodePoint_eq_ok_iff_coordinates {x y : Nat} {a b : Block 32} :
    encodePoint x y = .ok (a, b) ↔
      encodeCoordinate (naturalBytes x) = .ok a ∧ encodeCoordinate (naturalBytes y) = .ok b := by
  constructor
  · intro h
    obtain ⟨first, hfirst, h⟩ := bind_ok h
    obtain ⟨second, hsecond, h⟩ := bind_ok h
    cases h
    exact ⟨hfirst, hsecond⟩
  · rintro ⟨hfirst, hsecond⟩
    unfold encodePoint
    rw [hfirst, hsecond]
    rfl

theorem encodePoint_eq {x y : Nat} (hx : x < Bytes.bound 32) (hy : y < Bytes.bound 32) :
    encodePoint x y = .ok (Block.ofNatLE 32 x, Block.ofNatLE 32 y) := by
  have ex := encodeCoordinate_eq ((natBE_naturalBytes x).symm ▸ hx)
  have ey := encodeCoordinate_eq ((natBE_naturalBytes y).symm ▸ hy)
  rw [natBE_naturalBytes] at ex ey
  exact encodePoint_eq_ok_iff_coordinates.mpr ⟨ex, ey⟩

theorem natBE_decodeCoordinate (wire : Block 32) : (decodeCoordinate wire).natBE = wire.natLE := by
  simp [decodeCoordinate, Block.natBE, Block.natLE, Bytes.natBE]

/-- Reading the wire form of a pair of numbers gives the pair back. -/
theorem decodePoint_ofNatLE {x y : Nat} (hx : x < Bytes.bound 32) (hy : y < Bytes.bound 32) :
    decodePoint (Block.ofNatLE 32 x) (Block.ofNatLE 32 y) = (x, y) := by
  simp only [decodePoint, natBE_decodeCoordinate, Block.natLE_ofNatLE, Nat.mod_eq_of_lt hx,
    Nat.mod_eq_of_lt hy]

end Wire

/-! ## Keys -/

theorem P256.val_lt_bound (x : P256.Coordinate) : x.val < Bytes.bound 32 :=
  Nat.lt_trans x.isLt P256.prime_lt

theorem P256.scalar_lt_bound (k : P256.Scalar) : k.val < Bytes.bound 32 :=
  Nat.lt_trans k.isLt P256.order_lt

theorem P256.PublicKey.ofNats?_val (key : P256.PublicKey) :
    P256.PublicKey.ofNats? key.x.val key.y.val = some key := by
  simp [P256.PublicKey.ofNats?, P256.PublicKey.ofCoordinates?, key.onCurve]

/-- The wire form of a public key. -/
def P256.PublicKey.wire (key : P256.PublicKey) : WireKey :=
  ⟨Block.ofNatLE 32 key.x, Block.ofNatLE 32 key.y⟩

/-- Every public key has a wire form. -/
theorem WireKey.encode_eq (key : P256.PublicKey) : WireKey.encode key = .ok key.wire := by
  unfold WireKey.encode
  rw [Wire.encodePoint_eq (P256.val_lt_bound key.x) (P256.val_lt_bound key.y)]
  rfl

/-- Reading the wire form of a public key gives the key back. -/
theorem WireKey.decode_wire (key : P256.PublicKey) : key.wire.decode = .ok key := by
  unfold WireKey.decode P256.PublicKey.wire
  rw [Wire.decodePoint_ofNatLE (P256.val_lt_bound key.x) (P256.val_lt_bound key.y)]
  simp only [P256.PublicKey.ofNats?_val]

/-- The wire form of a point: both coordinates are reduced and satisfy the curve equation. -/
structure WireKey.IsCanonical (key : WireKey) : Prop where
  /-- The first coordinate is reduced. -/
  x_lt : key.x.natLE < P256.prime
  /-- The second coordinate is reduced. -/
  y_lt : key.y.natLE < P256.prime
  /-- The coordinates belong to a point of the curve. -/
  onCurve : P256.OnCurve ⟨key.x.natLE, x_lt⟩ ⟨key.y.natLE, y_lt⟩

theorem P256.PublicKey.ofNats?_isSome_iff {x y : Nat} :
    (P256.PublicKey.ofNats? x y).isSome = true ↔
      ∃ (hx : x < P256.prime) (hy : y < P256.prime), P256.OnCurve ⟨x, hx⟩ ⟨y, hy⟩ := by
  unfold P256.PublicKey.ofNats? P256.PublicKey.ofCoordinates?
  by_cases hx : x < P256.prime
  · by_cases hy : y < P256.prime
    · by_cases hc : P256.OnCurve ⟨x, hx⟩ ⟨y, hy⟩ <;> simp [hx, hy, hc]
    · simp [hy]
  · simp [hx]

/-- Reading gives a key where there is one, and else says that there is none. -/
theorem WireKey.decode_cases (key : WireKey) :
    (key.IsCanonical ∧ ∃ point, key.decode = .ok point) ∨
    (¬ key.IsCanonical ∧ key.decode = .error .invalidPublicKey) := by
  have hcanonical : key.IsCanonical ↔
      (P256.PublicKey.ofNats? key.x.natLE key.y.natLE).isSome = true := by
    rw [P256.PublicKey.ofNats?_isSome_iff]
    exact ⟨fun h => ⟨h.x_lt, h.y_lt, h.onCurve⟩, fun ⟨hx, hy, hc⟩ => ⟨hx, hy, hc⟩⟩
  simp only [WireKey.decode, Wire.decodePoint, Wire.natBE_decodeCoordinate]
  cases hk : P256.PublicKey.ofNats? key.x.natLE key.y.natLE with
  | some point => exact Or.inl ⟨hcanonical.mpr (by rw [hk]; rfl), point, rfl⟩
  | none =>
    refine Or.inr ⟨fun h => ?_, rfl⟩
    have hsome := hcanonical.mp h
    rw [hk] at hsome
    cases hsome

theorem WireKey.ofSecret_eq {secret : P256.SecretKey} {key : P256.PublicKey}
    (h : secret.publicKey? = some key) : WireKey.ofSecret secret = .ok key.wire := by
  rw [WireKey.ofSecret, h]
  exact WireKey.encode_eq key

/-! ## Signatures -/

theorem P256.SecretKey.ofNat?_val {k : P256.Scalar} (h : k ≠ 0) :
    P256.SecretKey.ofNat? k.val = some ⟨k, h⟩ := by
  have h' : (⟨k.val, k.isLt⟩ : P256.Scalar) ≠ 0 := h
  rw [P256.SecretKey.ofNat?, dif_pos k.isLt, dif_pos h']

/-- The wire form of a signature. -/
def Ecdsa.Signature.wire (signature : Ecdsa.Signature) : WireSignature :=
  ⟨Block.ofNatLE 32 signature.r, Block.ofNatLE 32 signature.s⟩

/-- Every signature has a wire form. -/
theorem WireSignature.encode_eq (signature : Ecdsa.Signature) :
    WireSignature.encode signature = .ok signature.wire := by
  unfold WireSignature.encode
  rw [Wire.encodePoint_eq (P256.scalar_lt_bound signature.r) (P256.scalar_lt_bound signature.s)]
  rfl

/-- Reading the wire form of a signature gives the signature back. -/
theorem WireSignature.decode_wire (signature : Ecdsa.Signature) :
    signature.wire.decode = .ok signature := by
  unfold WireSignature.decode Ecdsa.Signature.wire
  rw [Wire.decodePoint_ofNatLE (P256.scalar_lt_bound signature.r)
    (P256.scalar_lt_bound signature.s)]
  simp only [Ecdsa.Signature.ofNats?, P256.SecretKey.ofNat?_val signature.r_ne_zero,
    P256.SecretKey.ofNat?_val signature.s_ne_zero]

end EnclaveGate
