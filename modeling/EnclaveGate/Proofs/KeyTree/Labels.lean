import EnclaveGate.Proofs.Crypto.Aes
import EnclaveGate.Proofs.Message.Authenticated
import Mathlib.Data.Set.Function

/-!
# Keys of different labels

A message of fewer than 16 bytes is filled up to a single block, from which it can be read off
again, and its authentication code is this block, masked and enciphered. So under one key no two
such messages have the same code. A derivation string is four bytes longer than its label: labels of
at most 11 bytes have different keys under every key of the tree, and so have the four labels of the
protocol.
-/

namespace EnclaveGate

/-! ## Codes of short messages -/

/-- A string that is not longer than a piece is its only piece. -/
theorem Bytes.chunks_of_length_le {bs : Bytes} {n : Nat} (hne : bs ≠ []) (h : bs.length ≤ n) :
    chunks n bs = [bs] := by
  cases bs with
  | nil => exact absurd rfl hne
  | cons b rest =>
    have htake : (b :: rest).take n = b :: rest := List.take_of_length_le h
    have hdrop : (b :: rest).drop n = [] := List.drop_of_length_le h
    rw [chunks, List.length_cons, chunksUpTo, htake, hdrop]
    cases rest.length <;> rfl

namespace Cmac

variable {E : Block 16 → Block 16} {message : Bytes}

theorem toList_fill (h : message.length < 16) :
    (fill message).toList = message ++ 0x80 :: List.replicate (15 - message.length) 0 := by
  have htake : (0x80 :: List.replicate 15 0 : Bytes).take (16 - message.length) =
      0x80 :: List.replicate (15 - message.length) 0 := by
    have hlen : 16 - message.length = (15 - message.length) + 1 := by omega
    rw [hlen, List.take_succ_cons, List.take_replicate, Nat.min_eq_left (Nat.sub_le ..)]
  rw [fill, Block.toList_ofList, List.take_append, htake, List.take_of_length_le (by omega)]

/-- What a string was before it was filled up: all before the last byte that is not zero. -/
def unfill (bs : Bytes) : Bytes := ((bs.reverse.dropWhile (· == 0)).drop 1).reverse

theorem unfill_append (message : Bytes) (n : Nat) :
    unfill (message ++ 0x80 :: List.replicate n 0) = message := by
  have hreverse : (message ++ 0x80 :: List.replicate n 0).reverse =
      List.replicate n 0 ++ 0x80 :: message.reverse := by simp
  have hdrop : (List.replicate n 0 ++ 0x80 :: message.reverse).dropWhile (· == 0) =
      0x80 :: message.reverse := by
    induction n with
    | zero => rfl
    | succ n ih => simp [List.replicate_succ]
  rw [unfill, hreverse, hdrop, List.drop_one, List.tail_cons, List.reverse_reverse]

theorem fill_injOn : {message : Bytes | message.length < 16}.InjOn fill := by
  intro a ha b hb h
  have hlists := congrArg Vector.toList h
  rw [toList_fill ha, toList_fill hb] at hlists
  rw [← unfill_append a (15 - a.length), hlists, unfill_append]

/-- A short message, be it empty or not, is a single last block. -/
theorem macWith_of_short (h : message.length < 16) :
    macWith E message = E ((Block.zero 16).xor ((fill message).xor (filledMask E))) := by
  have hlast : lastBlock E message = (fill message).xor (filledMask E) := by
    rw [lastBlock, if_neg (by omega)]
  by_cases hnil : message = []
  · subst hnil
    rw [← hlast]
    rfl
  · have hpieces := Bytes.chunks_of_length_le hnil (Nat.le_of_lt h)
    rw [macWith, hpieces, chain, hlast]

theorem macWith_injOn (hE : Function.Injective E) :
    {message : Bytes | message.length < 16}.InjOn (macWith E) := by
  intro a ha b hb h
  rw [macWith_of_short ha, macWith_of_short hb] at h
  have hmasked := (Block.xor_right_inj _).mp (hE h)
  have hfilled := (Block.xor_left_inj _).mp hmasked
  exact fill_injOn ha hb hfilled

/-- Under one key, different messages of fewer than 16 bytes have different codes. -/
theorem mac_injOn (key : Block 16) : {message : Bytes | message.length < 16}.InjOn (mac key) :=
  macWith_injOn (Aes.encipher_injective (Aes.expand key))

end Cmac

/-! ## Labels -/

namespace KeyLabel

theorem bytes_injective : Function.Injective bytes := by
  intro a b
  cases a <;> cases b <;> decide

theorem length_bytes_le (label : KeyLabel) : label.bytes.length ≤ 11 := by
  cases label <;> decide

end KeyLabel

namespace KeyTree

theorem deriveLabel_injOn (base : DerivedKey) :
    {label : Bytes | label.length ≤ 11}.InjOn (deriveLabel base) := by
  intro a ha b hb h
  have hcodes : Cmac.mac base.bytes (derivationString a) =
      Cmac.mac base.bytes (derivationString b) := DerivedKey.mk.inj h
  have hshort : ∀ label : Bytes, label.length ≤ 11 → (derivationString label).length < 16 := by
    intro label hlabel
    rw [length_derivationString]
    omega
  have hstrings := Cmac.mac_injOn base.bytes (hshort a ha) (hshort b hb) hcodes
  exact derivationString_inj.mp hstrings

/-- Below any key, different labels of at most 11 bytes have different keys, whatever bytes they
hold, and the four labels of the protocol are among them. -/
theorem short_labels_apart (base : DerivedKey) :
    {label : Bytes | label.length ≤ 11}.InjOn (deriveLabel base) ∧
      Function.Injective (derive base) := by
  refine ⟨deriveLabel_injOn base, ?_⟩
  intro a b h
  have hbytes := deriveLabel_injOn base a.length_bytes_le b.length_bytes_le h
  exact KeyLabel.bytes_injective hbytes

end KeyTree

end EnclaveGate
