import EnclaveGate.Proofs.Crypto.Primality
import Mathlib.AlgebraicGeometry.EllipticCurve.Affine.Point

/-!
# The group of the curve

The points that chords and tangents lead through represent the elements of the group of an elliptic
curve: sums represent sums and multiples multiples. The generator has prime order in that group, so
every secret key has a public key, and both sides of an exchange share a coordinate.
-/

namespace EnclaveGate.P256

open EnclaveGate.Modular WeierstrassCurve

/-- The curve over the field. -/
def curve : WeierstrassCurve.Affine (ZMod prime) := ⟨0, 0, 0, -3, residue coefficientB⟩

/-- A numeral as an element of the field. -/
theorem residue_numeral (n : Nat) [n.AtLeastTwo] :
    residue (OfNat.ofNat n : Coordinate) = OfNat.ofNat n := residue_ofNat n

theorem two_lt_prime : 2 < prime := by decide

theorem two_ne_zero : (2 : ZMod prime) ≠ 0 := by
  rw [← residue_numeral, Ne, residue_eq_zero_iff]
  decide

theorem discriminant_ne_zero : curve.Δ ≠ 0 := by
  have h : curve.Δ = residue (1728 - 432 * (coefficientB * coefficientB) : Coordinate) := by
    rw [residue_sub, residue_mul, residue_mul, residue_numeral, residue_numeral]
    simp only [Δ, b₂, b₄, b₆,
      b₈, curve]
    ring
  rw [h, Ne, residue_eq_zero_iff]
  decide +kernel

/-- The pairs of coordinates that satisfy the equation are the points of the curve. -/
theorem nonsingular_iff {x y : Coordinate} :
    curve.Nonsingular (residue x) (residue y) ↔ OnCurve x y := by
  rw [← curve.equation_iff_nonsingular_of_Δ_ne_zero discriminant_ne_zero, Affine.equation_iff,
    OnCurve, ← residue_inj, rightSide, residue_mul, residue_add, residue_sub, residue_mul,
    residue_mul, residue_mul, residue_numeral]
  simp only [curve]
  constructor
  · intro h
    linear_combination h
  · intro h
    linear_combination h

namespace Point

/-- What the points stand for in the group of the curve. -/
inductive Represents : Point → curve.Point → Prop
  /-- The neutral element. -/
  | zero : Represents infinity 0
  /-- A point with coordinates. -/
  | some {x y : Coordinate} (h : curve.Nonsingular (residue x) (residue y)) :
    Represents (affine x y) (.some (residue x) (residue y) h)

theorem Represents.of_eq {x y : Coordinate} {X Y : ZMod prime} (h : curve.Nonsingular X Y)
    (hx : residue x = X) (hy : residue y = Y) : Represents (affine x y) (.some X Y h) := by
  subst hx hy
  exact .some h

/-- An element is represented by one point only. -/
theorem Represents.unique {p q : Point} {P : curve.Point} (hp : p.Represents P)
    (hq : q.Represents P) : p = q := by
  cases hp with
  | zero =>
    generalize hz : (0 : curve.Point) = z at hq
    cases hq with
    | zero => rfl
    | some h => exact absurd hz.symm (Affine.Point.some_ne_zero h)
  | some h =>
    rename_i x y
    generalize hz : Affine.Point.some (residue x) (residue y) h = z at hq
    cases hq with
    | zero => exact absurd hz (Affine.Point.some_ne_zero h)
    | some h' =>
      obtain ⟨hx, hy⟩ := (Affine.Point.some.injEq ..).mp hz
      rw [residue_inj.mp hx, residue_inj.mp hy]

theorem Represents.infinity_iff {p : Point} {P : curve.Point} (h : p.Represents P) :
    p = Point.infinity ↔ P = 0 := by
  constructor
  · rintro rfl
    cases h
    rfl
  · rintro rfl
    exact h.unique .zero

/-! ## Sums -/

variable {x₁ y₁ x₂ y₂ : Coordinate}

/-- The third point of a line represents the sum, if the slope is that of the chord or tangent. -/
theorem represents_onLine {slope : Coordinate}
    (h₁ : curve.Nonsingular (residue x₁) (residue y₁))
    (h₂ : curve.Nonsingular (residue x₂) (residue y₂))
    (hne : ¬(residue x₁ = residue x₂ ∧ residue y₁ = curve.negY (residue x₂) (residue y₂)))
    (hs : residue slope = curve.slope (residue x₁) (residue x₂) (residue y₁) (residue y₂)) :
    (onLine slope x₁ y₁ x₂).Represents
      (.some _ _ h₁ + .some _ _ h₂) := by
  rw [Affine.Point.add_some hne]
  apply Represents.of_eq
  · rw [← hs, residue_sub, residue_sub, residue_mul]
    simp only [Affine.addX, curve]
    ring
  · rw [← hs, residue_sub, residue_mul, residue_sub, residue_sub, residue_sub, residue_mul]
    simp only [Affine.addY, Affine.negAddY,
      Affine.negY, Affine.addX, curve]
    ring

theorem Represents.double {p : Point} {P : curve.Point} (h : p.Represents P) :
    p.double.Represents (P + P) := by
  cases h with
  | zero =>
    rw [add_zero]
    exact .zero
  | some h =>
    rename_i x y
    have hneg : curve.negY (residue x) (residue y) = -residue y := by
      simp [Affine.negY, curve]
    by_cases hy : y = 0
    · have h0 : residue y = curve.negY (residue x) (residue y) := by
        rw [hneg, hy, residue_zero, neg_zero]
      rw [Point.double, if_pos hy, Affine.Point.add_self_of_Y_eq h0]
      exact .zero
    · have hy' : residue y ≠ 0 := fun h => hy (residue_eq_zero_iff.mp h)
      have hne : residue y ≠ curve.negY (residue x) (residue y) := by
        rw [hneg]
        intro h
        have h2 : 2 * residue y = 0 := by linear_combination h
        exact (mul_ne_zero two_ne_zero hy') h2
      rw [Point.double, if_neg hy]
      refine represents_onLine h h (fun hc => hne hc.2) ?_
      rw [Affine.slope_of_Y_ne rfl hne, hneg, residue_mul, residue_sub, residue_mul,
        residue_mul, residue_inverse two_lt_prime, residue_mul, residue_numeral, residue_numeral]
      simp only [curve]
      rw [div_eq_mul_inv]
      ring_nf

theorem Represents.add {p q : Point} {P Q : curve.Point} (hp : p.Represents P)
    (hq : q.Represents Q) : (p.add q).Represents (P + Q) := by
  cases hp with
  | zero =>
    rw [zero_add]
    exact hq
  | some h₁ =>
    rename_i x₁ y₁
    cases hq with
    | zero =>
      rw [add_zero]
      exact .some h₁
    | some h₂ =>
      rename_i x₂ y₂
      rw [Point.add]
      by_cases hx : x₁ = x₂
      · subst hx
        by_cases hy : y₁ = y₂
        · subst hy
          rw [if_pos rfl, if_pos rfl]
          exact (Represents.some h₁).double
        · rw [if_pos rfl, if_neg hy]
          have hneg : residue y₁ = curve.negY (residue x₁) (residue y₂) := by
            rcases Affine.Y_eq_of_X_eq h₁.1 h₂.1 rfl with h | h
            · exact absurd (residue_inj.mp h) hy
            · exact h
          rw [Affine.Point.add_of_Y_eq rfl hneg]
          exact .zero
      · have hx' : residue x₁ ≠ residue x₂ := fun h => hx (residue_inj.mp h)
        rw [if_neg hx]
        refine represents_onLine h₁ h₂ (fun hc => hx' hc.1) ?_
        rw [Affine.slope_of_X_ne hx', residue_mul, residue_inverse two_lt_prime,
          residue_sub, residue_sub, ← neg_sub (residue x₁), ← neg_sub (residue y₁), inv_neg,
          neg_mul_neg, div_eq_mul_inv]

/-! ## Multiples -/

theorem Represents.multipleBits {p : Point} {P : curve.Point} (h : p.Represents P) (bits k : Nat) :
    (p.multipleBits bits k).Represents ((k % 2 ^ bits) • P) := by
  induction bits generalizing k with
  | zero =>
    rw [pow_zero, Nat.mod_one, zero_nsmul]
    exact .zero
  | succ bits ih =>
    have hk : k % 2 ^ (bits + 1) = 2 * (k / 2 % 2 ^ bits) + k % 2 := by
      rw [pow_succ', Nat.mod_mul, add_comm]
    have hd := (ih (k / 2)).double
    rw [← two_nsmul, ← mul_nsmul'] at hd
    simp only [Point.multipleBits]
    split
    · rename_i h1
      rw [hk, h1, add_nsmul, one_nsmul]
      exact hd.add h
    · rename_i h1
      rw [hk, Nat.mod_two_ne_one.mp h1, add_zero]
      exact hd

/-- Doubling and adding gives the multiple. -/
theorem Represents.multiple {p : Point} {P : curve.Point} (h : p.Represents P) (k : Nat) :
    (p.multiple k).Represents (k • P) := by
  have hm := h.multipleBits (k.log2 + 1) k
  rw [Nat.mod_eq_of_lt Nat.lt_log2_self] at hm
  exact hm

end Point

/-! ## Keys -/

theorem generator_x_lt :
    0x6b17d1f2e12c4247f8bce6e563a440f277037d812deb33a0f4a13945d898c296 < prime := by decide

theorem generator_y_lt :
    0x4fe342e2fe1a7f9b8ee7eb4a7c0f9e162bce33576b315ececbb6406837bf51f5 < prime := by decide

/-- The public key at the generator. -/
def PublicKey.base : PublicKey :=
  ⟨⟨_, generator_x_lt⟩, ⟨_, generator_y_lt⟩, by decide +kernel⟩

/-- The element of the group that a public key stands for. -/
def PublicKey.element (key : PublicKey) : curve.Point :=
  .some (residue key.x) (residue key.y) (nonsingular_iff.mpr key.onCurve)

theorem PublicKey.represents (key : PublicKey) : key.point.Represents key.element :=
  .some (nonsingular_iff.mpr key.onCurve)

theorem PublicKey.element_ne_zero (key : PublicKey) : key.element ≠ 0 :=
  Affine.Point.some_ne_zero _

theorem PublicKey.element_inj {key key' : PublicKey} : key.element = key'.element ↔ key = key' := by
  constructor
  · intro h
    have hp := key.represents.unique (h ▸ key'.represents)
    obtain ⟨x, y, hk⟩ := key
    obtain ⟨x', y', hk'⟩ := key'
    cases hp
    rfl
  · rintro rfl
    rfl

/-- What is represented belongs to a public key, unless it is the neutral element. -/
theorem PublicKey.exists_of_represents {p : Point} {P : curve.Point} (h : p.Represents P)
    (h0 : P ≠ 0) : ∃ key : PublicKey, key.element = P := by
  cases h with
  | zero => exact absurd rfl h0
  | some h => exact ⟨⟨_, _, nonsingular_iff.mp h⟩, rfl⟩

theorem generator_represents : generator.Represents PublicKey.base.element :=
  PublicKey.base.represents

theorem generator_multiple_order : generator.multiple order = .infinity := by
  set_option maxRecDepth 100000 in
  decide +kernel

/-- The generator has prime order. -/
theorem addOrderOf_base : addOrderOf PublicKey.base.element = order := by
  refine addOrderOf_eq_prime ?_ PublicKey.base.element_ne_zero
  exact (generator_represents.multiple order).infinity_iff.mp generator_multiple_order

/-- Multiples of the generator are the same if their numbers are the same scalar. -/
theorem nsmul_base_eq_iff {m n : Nat} :
    m • PublicKey.base.element = n • PublicKey.base.element ↔ (m : ZMod order) = n := by
  rw [nsmul_eq_nsmul_iff_modEq, addOrderOf_base, ZMod.natCast_eq_natCast_iff]

namespace SecretKey

theorem nsmul_ne_zero (key : SecretKey) : key.scalar.val • PublicKey.base.element ≠ 0 := by
  have h := (nsmul_base_eq_iff (m := key.scalar.val) (n := 0)).not
  rw [zero_nsmul, Nat.cast_zero] at h
  exact h.mpr fun h0 => key.ne_zero (residue_eq_zero_iff.mp h0)

/-- The public key of a secret key is the multiple of the generator. -/
theorem publicKey?_eq_some_iff {key : SecretKey} {pub : PublicKey} :
    key.publicKey? = some pub ↔ pub.element = key.scalar.val • PublicKey.base.element := by
  have hm := generator_represents.multiple key.scalar.val
  rw [publicKey?]
  generalize generator.multiple key.scalar.val = p at hm
  generalize hP : key.scalar.val • PublicKey.base.element = P at hm
  cases hm with
  | zero => exact absurd hP key.nsmul_ne_zero
  | some h =>
    have hon := nonsingular_iff.mp h
    rw [PublicKey.ofPoint?, PublicKey.ofCoordinates?, dif_pos hon, Option.some_inj]
    exact ⟨fun he => he ▸ rfl, fun he => (PublicKey.element_inj.mp he).symm⟩

/-- Every secret key has a public key. -/
theorem exists_publicKey (key : SecretKey) : ∃ pub, key.publicKey? = some pub := by
  obtain ⟨pub, h⟩ := PublicKey.exists_of_represents
    (generator_represents.multiple key.scalar.val) key.nsmul_ne_zero
  exact ⟨pub, publicKey?_eq_some_iff.mpr h⟩

theorem mul_nsmul_ne_zero (a b : SecretKey) :
    (a.scalar.val * b.scalar.val) • PublicKey.base.element ≠ 0 := by
  have h := (nsmul_base_eq_iff (m := a.scalar.val * b.scalar.val) (n := 0)).not
  rw [zero_nsmul, Nat.cast_zero, Nat.cast_mul] at h
  -- the order is prime, so the product of two scalars is zero only if one of them is
  refine h.mpr (mul_ne_zero ?_ ?_)
  · exact fun h0 => a.ne_zero (residue_eq_zero_iff.mp h0)
  · exact fun h0 => b.ne_zero (residue_eq_zero_iff.mp h0)

/-- The multiple of the generator by two scalars is a public key. -/
theorem exists_product (a b : SecretKey) : ∃ product : PublicKey,
    product.element = (a.scalar.val * b.scalar.val) • PublicKey.base.element :=
  PublicKey.exists_of_represents (generator_represents.multiple _) (mul_nsmul_ne_zero a b)

/-- The shared coordinate is that of the multiple of the generator by both scalars. -/
theorem sharedCoordinate_eq {mine peer : SecretKey} {peerPub product : PublicKey}
    (hp : peer.publicKey? = some peerPub)
    (h : product.element = (mine.scalar.val * peer.scalar.val) • PublicKey.base.element) :
    mine.sharedCoordinate peerPub = product.x := by
  have hm := peerPub.represents.multiple mine.scalar.val
  rw [publicKey?_eq_some_iff.mp hp, ← mul_nsmul', ← h] at hm
  rw [sharedCoordinate, hm.unique product.represents]
  rfl

/-- Both sides of an exchange share a coordinate. -/
theorem sharedCoordinate_comm {mine peer : SecretKey} {minePub peerPub : PublicKey}
    (hm : mine.publicKey? = some minePub) (hp : peer.publicKey? = some peerPub) :
    mine.sharedCoordinate peerPub = peer.sharedCoordinate minePub := by
  obtain ⟨product, h⟩ := exists_product mine peer
  rw [sharedCoordinate_eq hp h]
  rw [mul_comm] at h
  rw [sharedCoordinate_eq hm h]

end SecretKey

end EnclaveGate.P256
