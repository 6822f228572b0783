import EnclaveGate.Proofs.Crypto.Gcm
import EnclaveGate.SecretBox
import Mathlib.Algebra.Group.Nat.Defs

/-!
# Decryption is the inverse of encryption

Under the session key a secret is what a ciphertext decrypts to exactly if it encrypts to it, and no
ciphertext is accepted under two tags. The vector is drawn from the random bytes as a whole or not at
all.
-/

namespace EnclaveGate

namespace EncryptedSecret

variable {sk : DerivedKey} {iv : Block 12} {plaintext : Bytes} {secret : EncryptedSecret}

theorem encryptWith_eq_ok_iff : encryptWith sk iv plaintext = .ok secret ↔
    secret.iv = iv ∧
      Gcm.encrypt? sk.bytes iv plaintext = some (secret.ciphertext, secret.tag) := by
  unfold encryptWith
  cases Gcm.encrypt? sk.bytes iv plaintext with
  | none => simp
  | some sealed =>
    obtain ⟨ciphertext, tag⟩ := sealed
    cases secret
    simp only [Except.ok.injEq, mk.injEq, Option.some.injEq, Prod.mk.injEq]
    constructor
    · rintro ⟨rfl, rfl, rfl⟩
      exact ⟨rfl, rfl, rfl⟩
    · rintro ⟨rfl, rfl, rfl⟩
      exact ⟨rfl, rfl, rfl⟩

theorem decrypt_eq_ok_iff : decrypt sk secret = .ok plaintext ↔
    Gcm.decrypt? sk.bytes secret.iv secret.ciphertext secret.tag = some plaintext := by
  unfold decrypt
  cases Gcm.decrypt? sk.bytes secret.iv secret.ciphertext secret.tag <;> simp

theorem decrypt_of_none
    (h : Gcm.decrypt? sk.bytes secret.iv secret.ciphertext secret.tag = none) :
    decrypt sk secret = .error (.crypto .encryption) := by
  simp only [decrypt, h]

/-- A secret is decrypted under the key under which it was encrypted. -/
theorem decrypt_of_encryptWith (h : encryptWith sk iv plaintext = .ok secret) :
    decrypt sk secret = .ok plaintext := by
  obtain ⟨rfl, hsealed⟩ := encryptWith_eq_ok_iff.mp h
  exact decrypt_eq_ok_iff.mpr (Gcm.decrypt?_encrypt? hsealed)

/-- How encryption and decryption under a key belong together. -/
structure Inverts (sk : DerivedKey) : Prop where
  /-- A ciphertext decrypts to a text exactly if the text encrypts to it. -/
  inverse : ∀ (secret : EncryptedSecret) (plaintext : Bytes), secret.ciphertext.length ≤ 2 ^ 36 →
    (decrypt sk secret = .ok plaintext ↔ encryptWith sk secret.iv plaintext = .ok secret)
  /-- A text that is not too long encrypts to a ciphertext of its length that decrypts to it. -/
  original : ∀ (iv : Block 12) (plaintext : Bytes), plaintext.length ≤ 2 ^ 36 →
    ∃ secret, encryptWith sk iv plaintext = .ok secret ∧ secret.iv = iv ∧
      secret.ciphertext.length = plaintext.length ∧ decrypt sk secret = .ok plaintext
  /-- A ciphertext has one tag, and under every other tag it is refused. -/
  oneTag : ∀ (iv : Block 12) (ciphertext : Bytes), ciphertext.length ≤ 2 ^ 36 →
    ∃ tag plaintext, decrypt sk ⟨iv, ciphertext, tag⟩ = .ok plaintext ∧
      ∀ other, other ≠ tag → decrypt sk ⟨iv, ciphertext, other⟩ = .error (.crypto .encryption)
  /-- The vector is the next 12 random bytes; with fewer of them nothing is drawn. -/
  vector : ∀ (plaintext : Bytes) (tape : Tape),
    (tape.size < 12 ∧ encrypt sk plaintext tape = (.error .randomness, tape)) ∨
    ∃ (iv : Block 12) (rest : Tape), tape.bytes = iv.toList ++ rest.bytes ∧
      encrypt sk plaintext tape = (encryptWith sk iv plaintext, rest)

/-- The vector is drawn as a whole or not at all. -/
theorem encrypt_cases (sk : DerivedKey) (plaintext : Bytes) (tape : Tape) :
    (tape.size < 12 ∧ encrypt sk plaintext tape = (.error .randomness, tape)) ∨
    ∃ (iv : Block 12) (rest : Tape), tape.bytes = iv.toList ++ rest.bytes ∧
      encrypt sk plaintext tape = (encryptWith sk iv plaintext, rest) := by
  unfold encrypt
  cases hd : tape.draw? 12 with
  | none => exact Or.inl ⟨Tape.draw?_eq_none_iff.mp hd, rfl⟩
  | some drawn =>
    obtain ⟨iv, rest⟩ := drawn
    exact Or.inr ⟨iv, rest, Tape.bytes_of_draw? hd, rfl⟩

/-- Under every key, decryption is the inverse of encryption, a ciphertext has exactly one tag, and
encryption takes exactly one vector from the random bytes. -/
theorem decryption_inverts (sk : DerivedKey) : Inverts sk := by
  constructor
  case inverse =>
    intro secret plaintext h
    rw [decrypt_eq_ok_iff, encryptWith_eq_ok_iff, Gcm.decrypt?_eq_some_iff_encrypt? h]
    exact (and_iff_right rfl).symm
  case original =>
    intro iv plaintext h
    let E := Aes.encipher (Aes.expand sk.bytes)
    let ciphertext := Gcm.counterMode E iv plaintext
    have hencrypt : encryptWith sk iv plaintext =
        .ok ⟨iv, ciphertext, Gcm.tag E iv ciphertext⟩ :=
      encryptWith_eq_ok_iff.mpr ⟨rfl, Gcm.encrypt?_eq_some_iff.mpr ⟨h, rfl, rfl⟩⟩
    exact ⟨_, hencrypt, rfl, Gcm.length_counterMode E iv plaintext,
      decrypt_of_encryptWith hencrypt⟩
  case oneTag =>
    intro iv ciphertext h
    let E := Aes.encipher (Aes.expand sk.bytes)
    have hfits : ciphertext.length ≤ Gcm.maxCiphertext := Nat.le_trans h (Nat.le_add_right ..)
    refine ⟨Gcm.tag E iv ciphertext, Gcm.counterMode E iv ciphertext, ?_, ?_⟩
    · exact decrypt_eq_ok_iff.mpr (Gcm.decrypt?_eq_some_iff.mpr ⟨hfits, rfl, rfl⟩)
    · intro other hother
      apply decrypt_of_none
      rw [Option.eq_none_iff_forall_ne_some]
      intro plaintext hd
      exact hother (Gcm.decrypt?_eq_some_iff.mp hd).2.2.symm
  case vector => exact encrypt_cases sk

end EncryptedSecret

end EnclaveGate
