import EnclaveGate.Proofs.Bytes.HexText
import EnclaveGate.Settings.Resolve

/-!
# What single fields of a configuration must hold

Each field is read by one function, which succeeds exactly if the field is good. The value that is
read is then the one that was written, neither wrapped nor cut off, and else the error names the
field and says what is wrong with it.
-/

namespace EnclaveGate

/-- A step succeeds if a condition holds, with a value as it should be; else it fails as it should. -/
structure Decides {α : Type} (x : Except ConfigError α) (condition : Prop) (good : α → Prop)
    (bad : ConfigError → Prop) : Prop where
  /-- What succeeds may succeed, and has the right value. -/
  ok : ∀ a, x = .ok a → condition ∧ good a
  /-- What fails has to fail, and for the right reason. -/
  error : ∀ e, x = .error e → ¬ condition ∧ bad e

namespace Decides

variable {α : Type} {x : Except ConfigError α} {condition condition' : Prop} {good : α → Prop}
  {bad : ConfigError → Prop}

theorem of_ok {a : α} (h : x = .ok a) (hc : condition) (hg : good a) :
    Decides x condition good bad where
  ok := by
    intro b hb
    rw [h] at hb
    cases hb
    exact ⟨hc, hg⟩
  error := by
    intro e he
    rw [h] at he
    cases he

theorem of_error {e : ConfigError} (h : x = .error e) (hc : ¬ condition) (hb : bad e) :
    Decides x condition good bad where
  ok := by
    intro a ha
    rw [h] at ha
    cases ha
  error := by
    intro e' he
    rw [h] at he
    cases he
    exact ⟨hc, hb⟩

theorem cases (h : Decides x condition good bad) :
    (condition ∧ ∃ a, x = .ok a ∧ good a) ∨ (¬ condition ∧ ∃ e, x = .error e ∧ bad e) := by
  cases hx : x with
  | ok a =>
    obtain ⟨hc, hg⟩ := h.ok a hx
    exact Or.inl ⟨hc, a, rfl, hg⟩
  | error e =>
    obtain ⟨hc, hb⟩ := h.error e hx
    exact Or.inr ⟨hc, e, rfl, hb⟩

end Decides

/-! ## Hexadecimal text -/

/-- A text between white space. -/
def trimmed (text : String) : List Char := Text.trim text.toList

/-- A text holds so many hexadecimal digits, with white space around them. -/
def HoldsDigits (text : String) (n : Nat) : Prop :=
  (trimmed text).length = n ∧ ∀ c ∈ trimmed text, Hex.IsDigit c

/-- Why a text holds no block of `n` bytes. -/
inductive BlockFault (n : Nat) (field text : String) : ConfigError → Prop
  /-- The text is not hexadecimal. -/
  | hex {cause : HexError} (h : Hex.Fault (Text.utf8 (trimmed text)) cause) :
    BlockFault n field text (.hex field cause)
  /-- The text spells another number of bytes. -/
  | length {bs : Bytes} (h : Hex.Spells (trimmed text) bs) (hn : bs.length ≠ n) :
    BlockFault n field text (.length field n bs.length)

theorem digits_of_spells {text : String} {bs : Bytes} (h : Hex.Spells (trimmed text) bs) :
    HoldsDigits text (2 * bs.length) :=
  ⟨h.length_eq, h.digits⟩

theorem spells_of_digits {text : String} {n : Nat} (h : HoldsDigits text (2 * n)) :
    ∃ bs, Hex.Spells (trimmed text) bs ∧ bs.length = n := by
  obtain ⟨hlength, hdigits⟩ := h
  have heven : (Text.utf8 (trimmed text)).length % 2 = 0 := by
    rw [Hex.length_utf8 hdigits, hlength]
    omega
  obtain ⟨bs, hbs⟩ := Hex.decode_ok_iff.mpr ⟨heven, Hex.utf8_digits_iff.mpr hdigits⟩
  have hspells := Hex.decode_utf8_eq_ok_iff.mp hbs
  have := hspells.length_eq
  exact ⟨bs, hspells, by omega⟩

/-- A hexadecimal text is read as the bytes that it spells. -/
theorem Configuration.bytesOfText_decides (field text : String) :
    Decides (bytesOfText field text) (∃ n, HoldsDigits text (2 * n)) (Hex.Spells (trimmed text))
      fun e => ∃ cause, Hex.Fault (Text.utf8 (trimmed text)) cause ∧ e = .hex field cause := by
  cases hdecode : Hex.decode (Text.utf8 (trimmed text)) with
  | ok bs =>
    have hx : bytesOfText field text = .ok bs := by
      rw [trimmed] at hdecode
      rw [bytesOfText, hdecode]
      rfl
    have hspells := Hex.decode_utf8_eq_ok_iff.mp hdecode
    exact .of_ok hx ⟨bs.length, digits_of_spells hspells⟩ hspells
  | error cause =>
    have hx : bytesOfText field text = .error (.hex field cause) := by
      rw [trimmed] at hdecode
      rw [bytesOfText, hdecode]
      rfl
    refine .of_error hx ?_ ⟨cause, Hex.fault_of_decode hdecode, rfl⟩
    rintro ⟨n, hn⟩
    obtain ⟨bs, hspells, -⟩ := spells_of_digits hn
    rw [Hex.decode_utf8_eq_ok_iff.mpr hspells] at hdecode
    cases hdecode

/-- A block is read from a text with two digits for each of its bytes. -/
theorem blockOfText_decides (n : Nat) (field text : String) :
    Decides (blockOfText n field text) (HoldsDigits text (2 * n))
      (fun block => Hex.Spells (trimmed text) block.toList) (BlockFault n field text) := by
  cases hdecode : Hex.decode (Text.utf8 (trimmed text)) with
  | ok bs =>
    have hspells := Hex.decode_utf8_eq_ok_iff.mp hdecode
    rw [trimmed] at hdecode
    by_cases hlength : bs.length = n
    · have hblock : Block.ofList? n bs = some (Block.ofList bs hlength) := dif_pos hlength
      refine .of_ok (a := Block.ofList bs hlength) ?_ (hlength ▸ digits_of_spells hspells) ?_
      · simp only [blockOfText, hdecode, hblock]
      · rw [Block.toList_ofList]
        exact hspells
    · have hblock : Block.ofList? n bs = none := dif_neg hlength
      refine .of_error ?_ ?_ (.length hspells hlength)
      · simp only [blockOfText, hdecode, hblock]
      · intro hdigits
        have := hspells.length_eq
        have := hdigits.1
        omega
  | error cause =>
    have hx : blockOfText n field text = .error (.hex field cause) := by
      rw [trimmed] at hdecode
      rw [blockOfText, hdecode]
    refine .of_error hx ?_ (.hex (Hex.fault_of_decode hdecode))
    intro hdigits
    obtain ⟨bs, hspells, -⟩ := spells_of_digits hdigits
    rw [Hex.decode_utf8_eq_ok_iff.mpr hspells] at hdecode
    cases hdecode

namespace Configuration

/-! ## Flags and numbers -/

theorem requirePlainKey_decides (encrypted : Bool) :
    Decides (requirePlainKey encrypted) (encrypted = false) (fun _ => True)
      (· = .invalid "longTermKeyEncrypted" "encrypted long-term keys are not supported") := by
  cases encrypted with
  | false => exact .of_ok rfl rfl trivial
  | true => exact .of_error rfl (by simp) rfl

theorem quoteTypeOf_decides (number : UInt16) :
    Decides (quoteTypeOf number) (number = 0 ∨ number = 1) (·.toUInt16 = number)
      (· = .invalid "quoteType" s!"{number.toNat} is neither 0 nor 1") := by
  by_cases hzero : number = 0
  · subst hzero
    exact .of_ok rfl (Or.inl rfl) rfl
  · by_cases hone : number = 1
    · subst hone
      exact .of_ok rfl (Or.inr rfl) rfl
    · have hnone : QuoteType.ofUInt16? number = none := by
        rw [QuoteType.ofUInt16?, if_neg hzero, if_neg hone]
      refine .of_error ?_ (not_or.mpr ⟨hzero, hone⟩) rfl
      rw [quoteTypeOf, hnone]

/-- A number that fits in 16 bits is read as it is. -/
theorem shortNumber_decides (field : String) (v : Int) :
    Decides (shortNumber field v) (0 ≤ v ∧ v ≤ 65535) (fun n => (n.toNat : Int) = v)
      (· = .invalid field s!"{v} does not fit in 16 bits") := by
  have hbound : ((Bytes.bound 2 : Nat) : Int) = 65536 := rfl
  by_cases h : 0 ≤ v ∧ v < Bytes.bound 2
  · refine .of_ok (by rw [shortNumber, if_pos h]) ⟨h.1, by omega⟩ ?_
    have hlt : v.toNat < 2 ^ 16 := by omega
    rw [UInt16.toNat_ofNat_of_lt' hlt]
    exact Int.toNat_of_nonneg h.1
  · refine .of_error (by rw [shortNumber, if_neg h]) ?_ rfl
    intro hc
    exact h ⟨hc.1, by omega⟩

/-- A limit is read as it is, and -1 is none. -/
theorem optionalLimit_decides (field : String) (v : Int) :
    Decides (optionalLimit field v) (v = -1 ∨ 0 < v)
      (fun limit => (limit = none ↔ v = -1) ∧ ∀ n, limit = some n → (n : Int) = v ∧ 0 < n)
      (· = .invalid field s!"{v} is neither -1 nor positive") := by
  by_cases hnone : v = -1
  · exact .of_ok (by rw [optionalLimit, if_pos hnone]) (Or.inl hnone) (by simp [hnone])
  · by_cases hpos : 0 < v
    · refine .of_ok (by rw [optionalLimit, if_neg hnone, if_pos hpos]) (Or.inr hpos) ?_
      refine ⟨by simp [hnone], fun n hn => ?_⟩
      cases hn
      omega
    · exact .of_error (by rw [optionalLimit, if_neg hnone, if_neg hpos])
        (not_or.mpr ⟨hnone, hpos⟩) rfl

/-- Why a configuration sets no idle time. -/
inductive IdleFault (minutes : Int) : ConfigError → Prop
  /-- The number is zero or negative and not -1. -/
  | unusual (h : ¬ (minutes = -1 ∨ 0 < minutes)) :
    IdleFault minutes (.invalid "timeout" s!"{minutes} is neither -1 nor positive")
  /-- The seconds do not fit in 64 bits. -/
  | tooLarge (hpos : 0 < minutes) (h : 18446744073709551615 < 60 * minutes) :
    IdleFault minutes (.invalid "timeout" s!"{minutes.toNat} minutes is too large")

/-- The idle time is read from minutes exactly, and -1 is none. -/
theorem idleTime_decides (v : Int) :
    Decides (optionalLimit "timeout" v >>= idleTime) (v = -1 ∨ 0 < v ∧ 60 * v ≤ 18446744073709551615)
      (fun ms => (ms = none ↔ v = -1) ∧ ∀ n, ms = some n → (n : Int) = 1000 * (60 * v))
      (IdleFault v) := by
  have hbound : ((Bytes.bound 8 : Nat) : Int) = 18446744073709551616 := rfl
  rcases (optionalLimit_decides "timeout" v).cases with
    ⟨-, limit, hlimit, hnone, hsome⟩ | ⟨hc, e, he, rfl⟩
  · rw [bind_of_ok hlimit]
    cases limit with
    | none =>
      have hv := hnone.mp rfl
      exact .of_ok rfl (Or.inl hv) (by simp [hv])
    | some minutes =>
      obtain ⟨hminutes, hpos⟩ := hsome minutes rfl
      by_cases hfits : minutes * 60 < Bytes.bound 8
      · refine .of_ok (by rw [idleTime, if_pos hfits]) (Or.inr ⟨by omega, by omega⟩) ?_
        refine ⟨by simp; omega, fun n hn => ?_⟩
        cases hn
        omega
      · have htext : minutes = v.toNat := by omega
        refine .of_error (by rw [idleTime, if_neg hfits]) (by omega) ?_
        rw [htext]
        exact .tooLarge (by omega) (by omega)
  · rw [he]
    refine .of_error rfl ?_ (.unusual hc)
    rintro (hv | ⟨hv, -⟩)
    · exact hc (Or.inl hv)
    · exact hc (Or.inr hv)

/-- The longest idle time. -/
example : optionalLimit "timeout" 307445734561825860 >>= idleTime =
    .ok (some 18446744073709551600000) := rfl

example : optionalLimit "timeout" 307445734561825861 >>= idleTime =
    .error (.invalid "timeout" "307445734561825861 minutes is too large") := rfl

end Configuration

end EnclaveGate
