import EnclaveGate.Proofs.Bytes.Xor
import EnclaveGate.Quote.Binding
import Mathlib.Data.List.TakeDrop

/-!
# Tags and bindings

The comparison that goes over all of both strings finds no difference only if no position differs, so
it is equality. A binding is compared with the first half of the report data and a tag with the whole
code, so neither a part of the code nor a string that goes on behind it is a tag. A cipher is set up
with keys of one length only, which all keys of the tree have: under them codes are always found and
tags always checked.
-/

namespace EnclaveGate

namespace Cmac

/-- The cipher with a key of any length, if the cipher has this key. -/
def keyed (key : Bytes) : Except Error (Block 16 → Block 16) :=
  match Block.ofList? 16 key with
  | some key => .ok (Aes.encrypt key)
  | none => .error (.crypto .keyDerivation)

/-- The code of a message. -/
def code (key message : Bytes) : Except Error (Block 16) := do
  let E ← keyed key
  return macWith E message

/-- Whether a tag is a code that was found; a tag of another length is refused unread. -/
def accepts (found : Block 16) (tag : Bytes) : Bool :=
  match Block.ofList? 16 tag with
  | some tag => Bytes.difference found.toList tag.toList == 0
  | none => false

/-- Whether a tag is the code of a message. -/
def check (key message tag : Bytes) : Except Error Bool := do
  let E ← keyed key
  return accepts (macWith E message) tag

variable {key message tag : Bytes}

theorem keyed_of_length (h : key.length = 16) :
    keyed key = .ok (Aes.encrypt (Block.ofList key h)) := by
  rw [keyed, Block.ofList?, dif_pos h]

theorem keyed_of_length_ne (h : key.length ≠ 16) :
    keyed key = .error (.crypto .keyDerivation) := by
  rw [keyed, Block.ofList?, dif_neg h]

theorem keyed_toList (key : Block 16) : keyed key.toList = .ok (Aes.encrypt key) := by
  rw [keyed_of_length (Vector.length_toList ..), Block.ofList_toList]

/-- Refusing tags of another length first is what the comparison of strings does as well. -/
theorem accepts_eq (found : Block 16) (tag : Bytes) :
    accepts found tag = Bytes.constantTimeEq found.toList tag := by
  rw [accepts, Bytes.constantTimeEq, Vector.length_toList]
  by_cases h : tag.length = 16
  · have hlength : (16 == tag.length) = true := by rw [h]; rfl
    rw [Block.ofList?, dif_pos h, hlength, Bool.true_and]
    simp only [Block.toList_ofList]
  · have hlength : (16 == tag.length) = false := by
      rw [beq_eq_false_iff_ne]
      exact fun h16 => h h16.symm
    rw [Block.ofList?, dif_neg h, hlength, Bool.false_and]

/-- A key of the cipher's length is all that is needed to find a code. -/
theorem exists_code_iff : (∃ found, code key message = .ok found) ↔ key.length = 16 := by
  by_cases h : key.length = 16
  · have hkeyed := keyed_of_length h
    refine iff_of_true ⟨macWith (Aes.encrypt (Block.ofList key h)) message, ?_⟩ h
    rw [code, hkeyed]
    rfl
  · have hkeyed := keyed_of_length_ne h
    refine iff_of_false ?_ h
    rintro ⟨found, hfound⟩
    rw [code, hkeyed] at hfound
    cases hfound

/-- Whatever the key, a tag is accepted exactly if it is the code that is found. -/
theorem check_eq_ok_true_iff : check key message tag = .ok true ↔
    ∃ found, code key message = .ok found ∧ tag = found.toList := by
  constructor
  · intro h
    obtain ⟨E, hE, h⟩ := bind_ok h
    have haccepts : accepts (macWith E message) tag = true := Except.ok.inj h
    rw [accepts_eq, Bytes.constantTimeEq_iff] at haccepts
    refine ⟨macWith E message, ?_, haccepts.symm⟩
    rw [code, hE]
    rfl
  · rintro ⟨found, hfound, rfl⟩
    obtain ⟨E, hE, h⟩ := bind_ok hfound
    have hsame : macWith E message = found := Except.ok.inj h
    have haccepts : accepts (macWith E message) found.toList = true := by
      rw [accepts_eq, Bytes.constantTimeEq_iff, hsame]
    rw [check, hE, bind_of_ok rfl, haccepts]
    rfl

theorem code_toList (key : Block 16) (message : Bytes) :
    code key.toList message = .ok (mac key message) := by
  rw [code, keyed_toList]
  rfl

theorem check_toList (key : Block 16) (message tag : Bytes) :
    check key.toList message tag = .ok (verify key message tag) := by
  have hmac : macWith (Aes.encrypt key) message = mac key message := rfl
  rw [check, keyed_toList, bind_of_ok rfl, hmac, accepts_eq]
  rfl

end Cmac

/-- Comparisons hold exactly for what is equal. -/
structure ComparesExactly : Prop where
  /-- Strings of any lengths pass the comparison exactly if they are equal. -/
  strings : ∀ a b : Bytes, Bytes.constantTimeEq a b = true ↔ a = b
  /-- A quote is bound by the first half of its report data. -/
  bound : ∀ (body : QuoteBody) (binding : Block 32),
    body.isBoundTo binding = true ↔ body.reportData.toList.take 32 = binding.toList
  /-- The other half may be anything. -/
  bound_by_half : ∀ (body : QuoteBody) (first rest binding : Block 32),
    { body with reportData := first ++ rest }.isBoundTo binding = true ↔ first = binding
  /-- A tag is accepted exactly if it is the code. -/
  accepted : ∀ (key : DerivedKey) (message tag : Bytes),
    key.verify message tag = true ↔ tag = (key.mac message).toList
  /-- The first bytes of a code are no tag, unless they are all of it. -/
  shortened : ∀ (key : DerivedKey) (message : Bytes) (n : Nat),
    key.verify message ((key.mac message).toList.take n) = true ↔ 16 ≤ n
  /-- Nothing may follow a code. -/
  extended : ∀ (key : DerivedKey) (message more : Bytes),
    key.verify message ((key.mac message).toList ++ more) = true ↔ more = []
  /-- A code is found under every key of the right length, and under no other. -/
  needed : ∀ key message : Bytes, (∃ found, Cmac.code key message = .ok found) ↔ key.length = 16
  /-- A tag is accepted exactly if it is the code that is found, whatever the key. -/
  agreed : ∀ key message tag : Bytes, Cmac.check key message tag = .ok true ↔
    ∃ found, Cmac.code key message = .ok found ∧ tag = found.toList
  /-- Under a key of the tree the code is always found. -/
  found : ∀ (key : DerivedKey) (message : Bytes),
    Cmac.code key.bytes.toList message = .ok (key.mac message)
  /-- Under a key of the tree every tag is judged. -/
  judged : ∀ (key : DerivedKey) (message tag : Bytes),
    Cmac.check key.bytes.toList message tag = .ok (key.verify message tag)

/-- Tags and bindings are compared exactly. -/
theorem tags_and_bindings_compared_exactly : ComparesExactly := by
  constructor
  case strings => exact Bytes.constantTimeEq_iff
  case bound =>
    intro body binding
    rw [QuoteBody.isBoundTo, Bytes.constantTimeEq_iff]
  case bound_by_half =>
    intro body first rest binding
    have hfirst : (first ++ rest).toList.take 32 = first.toList := by
      rw [Vector.toList_append]
      exact List.take_left' (Vector.length_toList ..)
    rw [QuoteBody.isBoundTo, Bytes.constantTimeEq_iff, hfirst]
    constructor
    · exact Block.eq_of_toList_eq
    · rintro rfl
      rfl
  case accepted => exact DerivedKey.verify_eq_true_iff
  case shortened =>
    intro key message n
    have hlength : (key.mac message).toList.length = 16 := Vector.length_toList ..
    rw [DerivedKey.verify_eq_true_iff, List.take_eq_self_iff, hlength]
  case extended =>
    intro key message more
    rw [DerivedKey.verify_eq_true_iff, List.append_right_eq_self]
  case needed => exact fun _ _ => Cmac.exists_code_iff
  case agreed => exact fun _ _ _ => Cmac.check_eq_ok_true_iff
  case found => exact fun key message => Cmac.code_toList key.bytes message
  case judged => exact fun key message tag => Cmac.check_toList key.bytes message tag

end EnclaveGate
