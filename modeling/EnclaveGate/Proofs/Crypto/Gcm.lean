import EnclaveGate.Crypto.Gcm
import EnclaveGate.Proofs.Bytes.Xor

/-!
# Deciphering undoes enciphering

Counter mode cuts a text at the same places before and after the keystream was added, so adding it
again gives the text back. The tag is a function of the key, the vector and the ciphertext. So a text
is what a ciphertext decrypts to exactly if it encrypts to this ciphertext and its tag.
-/

namespace EnclaveGate

namespace Gcm

variable (E : Block 16 → Block 16) (iv : Block 12)

theorem addKeystream_nil (fuel count : Nat) :
    addKeystream E iv count (Bytes.chunksUpTo 16 fuel []) = [] := by
  cases fuel <;> rfl

/-- The keystream is added to the first piece, and behind it goes on with the next count. -/
theorem addKeystream_succ {text : Bytes} (h : text ≠ []) (fuel count : Nat) :
    addKeystream E iv count (Bytes.chunksUpTo 16 (fuel + 1) text) =
      Bytes.xor (text.take 16) (E (counterBlock iv count)).toList ++
        addKeystream E iv (count + 1) (Bytes.chunksUpTo 16 fuel (text.drop 16)) := by
  have he : text.isEmpty = false := by simpa using h
  rw [Bytes.chunksUpTo, he, if_neg Bool.false_ne_true, addKeystream]

theorem length_addKeystream {text : Bytes} {fuel : Nat} (h : text.length ≤ fuel) (count : Nat) :
    (addKeystream E iv count (Bytes.chunksUpTo 16 fuel text)).length = text.length := by
  induction fuel generalizing text count with
  | zero =>
    have ht : text = [] := List.eq_nil_of_length_eq_zero (by omega)
    rw [ht, addKeystream_nil]
  | succ fuel ih =>
    by_cases ht : text = []
    · rw [ht, addKeystream_nil]
    · have hpos := List.length_pos_iff.mpr ht
      have hd : (text.drop 16).length ≤ fuel := by
        rw [List.length_drop]
        omega
      rw [addKeystream_succ E iv ht, List.length_append, ih hd]
      simp only [Bytes.length_xor, List.length_take, List.length_drop, Vector.length_toList]
      omega

/-- A first piece that is full, or behind which nothing comes, is cut off where it ends. -/
theorem take_drop_pieces {head tail : Bytes} {n : Nat} (hh : head.length = min 16 n)
    (ht : tail.length = n - 16) : (head ++ tail).take 16 = head ∧ (head ++ tail).drop 16 = tail := by
  rcases Nat.lt_or_ge n 16 with hn | hn
  · have hnil : tail = [] := List.eq_nil_of_length_eq_zero (by omega)
    rw [hnil, List.append_nil]
    exact ⟨List.take_of_length_le (by omega), List.drop_of_length_le (by omega)⟩
  · have h16 : head.length = 16 := by omega
    exact ⟨List.take_left' h16, List.drop_left' h16⟩

/-- The keystream that is added twice is gone. -/
theorem addKeystream_addKeystream {text : Bytes} {fuel : Nat} (h : text.length ≤ fuel)
    (count : Nat) :
    addKeystream E iv count (Bytes.chunksUpTo 16 fuel
      (addKeystream E iv count (Bytes.chunksUpTo 16 fuel text))) = text := by
  induction fuel generalizing text count with
  | zero =>
    have ht : text = [] := List.eq_nil_of_length_eq_zero (by omega)
    rw [ht, addKeystream_nil, addKeystream_nil]
  | succ fuel ih =>
    by_cases ht : text = []
    · rw [ht, addKeystream_nil, addKeystream_nil]
    · have hpos := List.length_pos_iff.mpr ht
      have hd : (text.drop 16).length ≤ fuel := by
        rw [List.length_drop]
        omega
      rw [addKeystream_succ E iv ht]
      generalize hb : (E (counterBlock iv count)).toList = block
      generalize ht' : addKeystream E iv (count + 1) (Bytes.chunksUpTo 16 fuel (text.drop 16)) = tail
      have hblock : (text.take 16).length ≤ block.length := by
        rw [← hb, Vector.length_toList, List.length_take]
        omega
      have hhead : (Bytes.xor (text.take 16) block).length = min 16 text.length := by
        rw [Bytes.length_xor, Nat.min_eq_left hblock, List.length_take]
      have htail : tail.length = text.length - 16 := by
        rw [← ht', length_addKeystream E iv hd, List.length_drop]
      -- the ciphertext is cut where the text was
      obtain ⟨hfirst, hrest⟩ := take_drop_pieces hhead htail
      have hne : Bytes.xor (text.take 16) block ++ tail ≠ [] := by
        apply List.ne_nil_of_length_pos
        rw [List.length_append]
        omega
      rw [addKeystream_succ E iv hne, hfirst, hrest, hb, Bytes.xor_xor_cancel hblock, ← ht', ih hd]
      exact List.take_append_drop 16 text

@[simp] theorem length_counterMode (text : Bytes) :
    (counterMode E iv text).length = text.length :=
  length_addKeystream E iv (Nat.le_refl text.length) 2

/-- Counter mode undoes itself. -/
@[simp] theorem counterMode_counterMode (text : Bytes) :
    counterMode E iv (counterMode E iv text) = text := by
  have h := addKeystream_addKeystream E iv (Nat.le_refl text.length) 2
  rw [counterMode, Bytes.chunks, length_counterMode]
  exact h

/-! ## Sealing -/

section Sealing

variable {key : Block 16} {iv : Block 12} {plaintext ciphertext : Bytes} {t : Block 16}

/-- The keystream leads from one text to another exactly if it leads back. -/
theorem counterMode_eq_comm {E : Block 16 → Block 16} {a b : Bytes} :
    counterMode E iv a = b ↔ counterMode E iv b = a := by
  constructor
  · rintro rfl
    exact counterMode_counterMode E iv a
  · rintro rfl
    exact counterMode_counterMode E iv b

theorem encrypt?_eq_some_iff : encrypt? key iv plaintext = some (ciphertext, t) ↔
    plaintext.length ≤ maxPlaintext ∧
      counterMode (Aes.encipher (Aes.expand key)) iv plaintext = ciphertext ∧
      tag (Aes.encipher (Aes.expand key)) iv ciphertext = t := by
  unfold encrypt?
  split
  · rename_i hfits
    simp only [Option.some.injEq, Prod.mk.injEq, hfits, true_and]
    constructor
    · rintro ⟨rfl, rfl⟩
      exact ⟨rfl, rfl⟩
    · rintro ⟨rfl, rfl⟩
      exact ⟨rfl, rfl⟩
  · rename_i hlong
    simp [hlong]

theorem decrypt?_eq_some_iff : decrypt? key iv ciphertext t = some plaintext ↔
    ciphertext.length ≤ maxCiphertext ∧
      counterMode (Aes.encipher (Aes.expand key)) iv ciphertext = plaintext ∧
      tag (Aes.encipher (Aes.expand key)) iv ciphertext = t := by
  unfold decrypt?
  split
  · rename_i hfits
    dsimp only
    split
    · rename_i htag
      have h := Block.eq_of_toList_eq ((Bytes.constantTimeEq_iff _ _).mp htag)
      simp [hfits, h]
    · rename_i htag
      have h : ¬ tag (Aes.encipher (Aes.expand key)) iv ciphertext = t := by
        rintro rfl
        exact htag ((Bytes.constantTimeEq_iff _ _).mpr rfl)
      simp [h]
  · rename_i hlong
    simp [hlong]

/-- A ciphertext that is no longer than a plaintext may be is decrypted to what is encrypted to it. -/
theorem decrypt?_eq_some_iff_encrypt? (h : ciphertext.length ≤ maxPlaintext) :
    decrypt? key iv ciphertext t = some plaintext ↔
      encrypt? key iv plaintext = some (ciphertext, t) := by
  have hmore : ciphertext.length ≤ maxCiphertext := Nat.le_trans h (Nat.le_add_right ..)
  rw [decrypt?_eq_some_iff, encrypt?_eq_some_iff, counterMode_eq_comm]
  constructor
  · rintro ⟨-, hplain, htag⟩
    have hlength : plaintext.length = ciphertext.length := by
      rw [← hplain, length_counterMode]
    exact ⟨hlength ▸ h, hplain, htag⟩
  · rintro ⟨-, hplain, htag⟩
    exact ⟨hmore, hplain, htag⟩

/-- What was encrypted can be decrypted. -/
theorem decrypt?_encrypt? (h : encrypt? key iv plaintext = some (ciphertext, t)) :
    decrypt? key iv ciphertext t = some plaintext := by
  obtain ⟨hfits, rfl, -⟩ := encrypt?_eq_some_iff.mp h
  refine (decrypt?_eq_some_iff_encrypt? ?_).mpr h
  rw [length_counterMode]
  exact hfits

end Sealing

end Gcm

end EnclaveGate
