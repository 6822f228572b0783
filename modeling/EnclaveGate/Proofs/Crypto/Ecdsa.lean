import EnclaveGate.Crypto.Ecdsa
import EnclaveGate.Proofs.Crypto.Curve

/-!
# Signatures verify

A signature made with a secret key verifies under its public key: the inverse of the second scalar
turns the digest and the first scalar into numbers whose sum over both points is the nonce point.
-/

namespace EnclaveGate.Ecdsa

open P256 EnclaveGate.Modular

theorem two_lt_order : 2 < order := by decide

variable {key nonce : SecretKey} {pub : PublicKey} {digest : Scalar} {signature : Signature}

/-- What the two scalars of a signature are. -/
theorem scalars_of_signWith? (hs : signWith? key nonce digest = some signature) :
    signature.r = Scalar.ofCoordinate (generator.multiple nonce.scalar).xCoordinate ∧
      signature.s = inverse nonce.scalar * (digest + signature.r * key.scalar) := by
  simp only [signWith?] at hs
  split at hs
  · split at hs
    · cases hs
      exact ⟨rfl, rfl⟩
    · cases hs
  · cases hs

/-- The numbers by which verification multiplies both points make up the nonce. -/
theorem nonce_eq_sum
    (hs : signature.s = inverse nonce.scalar * (digest + signature.r * key.scalar)) :
    (((digest * inverse signature.s).val +
      (signature.r * inverse signature.s).val * key.scalar.val : Nat) : ZMod order) =
      nonce.scalar.val := by
  have hn : residue nonce.scalar ≠ 0 := fun h => nonce.ne_zero (residue_eq_zero_iff.mp h)
  have hs0 : residue signature.s ≠ 0 := fun h => signature.s_ne_zero (residue_eq_zero_iff.mp h)
  have hd : residue digest + residue signature.r * residue key.scalar =
      residue signature.s * residue nonce.scalar := by
    rw [congrArg residue hs, residue_mul, residue_inverse two_lt_order, residue_add, residue_mul]
    field_simp
  calc (((digest * inverse signature.s).val +
        (signature.r * inverse signature.s).val * key.scalar.val : Nat) : ZMod order)
      = residue (digest * inverse signature.s) +
          residue (signature.r * inverse signature.s) * residue key.scalar := by
        simp only [residue, Nat.cast_add, Nat.cast_mul]
    _ = (residue digest + residue signature.r * residue key.scalar) * (residue signature.s)⁻¹ := by
        rw [residue_mul, residue_mul, residue_inverse two_lt_order]
        ring
    _ = residue nonce.scalar := by
        rw [hd]
        field_simp

/-- The sum over both points that verification looks at is a multiple of the generator. -/
theorem represents_sum (hk : key.publicKey? = some pub) (u v : Nat) :
    ((generator.multiple u).add (pub.point.multiple v)).Represents
      ((u + v * key.scalar.val) • PublicKey.base.element) := by
  have h := (generator_represents.multiple u).add (pub.represents.multiple v)
  rw [SecretKey.publicKey?_eq_some_iff.mp hk, ← mul_nsmul', ← add_nsmul] at h
  exact h

/-- A signature of a digest with any nonce verifies. -/
theorem verifyDigest_of_signWith? (hk : key.publicKey? = some pub)
    (hs : signWith? key nonce digest = some signature) :
    verifyDigest pub digest signature = true := by
  obtain ⟨hr, hs⟩ := scalars_of_signWith? hs
  have hrep := represents_sum hk (digest * inverse signature.s).val
    (signature.r * inverse signature.s).val
  rw [nsmul_base_eq_iff.mpr (nonce_eq_sum hs)] at hrep
  have hpoint := hrep.unique (generator_represents.multiple nonce.scalar.val)
  have hne := hrep.infinity_iff.not.mpr nonce.nsmul_ne_zero
  unfold verifyDigest
  simp only [Bool.and_eq_true, bne_iff_ne, beq_iff_eq]
  refine ⟨hne, ?_⟩
  rw [hpoint]
  exact hr.symm

/-- What signing a message computes. The whole function is opened here: opening its application would
compute a symbolic digest. -/
theorem sign?_def : sign? = fun key message =>
    match nonce? key (digestScalar message) with
    | none => none
    | some nonce => signWith? key nonce (digestScalar message) := rfl

theorem exists_nonce_of_sign? {message : Bytes} (hs : sign? key message = some signature) :
    ∃ nonce, signWith? key nonce (digestScalar message) = some signature := by
  rw [sign?_def] at hs
  dsimp only at hs
  generalize digestScalar message = digest at hs ⊢
  split at hs
  · cases hs
  · rename_i nonce hn
    exact ⟨nonce, hs⟩

/-- A signature of a message verifies. -/
theorem verify_of_sign? {message : Bytes} (hk : key.publicKey? = some pub)
    (hs : sign? key message = some signature) : verify pub message signature = true := by
  obtain ⟨nonce, hn⟩ := exists_nonce_of_sign? hs
  exact verifyDigest_of_signWith? hk hn

end EnclaveGate.Ecdsa
