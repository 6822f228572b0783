import EnclaveGate.Text.Encoding
import EnclaveGate.Bytes.Hex

/-!
# Which texts are hexadecimal

A text is read as bytes exactly if it consists of digits of either case and their number is even. A
character outside ASCII is no digit, whatever its encoding. The bytes that are read are those whose
digits the text spells, and a text that is refused is refused for its length or its first bad byte.
-/

namespace EnclaveGate.Hex

/-- A hexadecimal digit of either case. -/
def IsDigit (c : Char) : Prop :=
  ('0' ≤ c ∧ c ≤ '9') ∨ ('a' ≤ c ∧ c ≤ 'f') ∨ ('A' ≤ c ∧ c ≤ 'F')

/-- A text of pairs of digits. -/
structure IsText (text : String) : Prop where
  /-- Every character is a digit. -/
  digits : ∀ c ∈ text.toList, IsDigit c
  /-- Their number is even. -/
  even : text.toList.length % 2 = 0

instance : DecidablePred IsDigit :=
  fun _ => inferInstanceAs (Decidable (_ ∨ _ ∨ _))

/-- Characters that are, but for their case, the hexadecimal text of a byte string. -/
def Spells (cs : List Char) (bs : Bytes) : Prop := cs.map Char.toLower = (text bs).toList

/-! ## Bytes -/

/-- Pairs are read if every byte is a digit. -/
theorem decodePairs_ok_iff (index : Nat) (bs : Bytes) (h : bs.length % 2 = 0) :
    (∃ out, decodePairs index bs = .ok out) ↔ ∀ b ∈ bs, (value? b).isSome = true := by
  induction index, bs using decodePairs.induct with
  | case1 index => simp [decodePairs]
  | case2 index b => simp at h
  | case3 index hi lo rest hhi => simp [decodePairs, hhi]
  | case4 index hi lo rest v hhi hlo => simp [decodePairs, hhi, hlo]
  | case5 index hi lo rest v w hlo hhi ih =>
    have hrest : rest.length % 2 = 0 := by
      simp only [List.length_cons] at h
      omega
    simp only [decodePairs, hhi, hlo, List.mem_cons, forall_eq_or_imp, Option.isSome_some, true_and]
    rw [← ih hrest]
    cases decodePairs (index + 2) rest <;> simp [Except.map]

theorem decode_ok_iff {bs : Bytes} :
    (∃ out, decode bs = .ok out) ↔ bs.length % 2 = 0 ∧ ∀ b ∈ bs, (value? b).isSome = true := by
  unfold decode
  by_cases h : bs.length % 2 = 1
  · simp [h]
  · have h0 : bs.length % 2 = 0 := by omega
    rw [if_neg h, decodePairs_ok_iff 0 bs h0]
    exact (and_iff_right h0).symm

theorem value?_isSome_iff {b : UInt8} :
    (value? b).isSome = true ↔
      (48 ≤ b ∧ b ≤ 57) ∨ (97 ≤ b ∧ b ≤ 102) ∨ (65 ≤ b ∧ b ≤ 70) := by
  unfold value?
  split
  · rename_i h
    simp [h]
  · rename_i h1
    split
    · rename_i h
      simp [h]
    · rename_i h2
      split
      · rename_i h
        simp [h]
      · rename_i h3
        simp [h1, h2, h3]

/-! ## Characters -/

theorem isDigit_iff {c : Char} : IsDigit c ↔
    (48 ≤ c.toNat ∧ c.toNat ≤ 57) ∨ (97 ≤ c.toNat ∧ c.toNat ≤ 102) ∨
      (65 ≤ c.toNat ∧ c.toNat ≤ 70) :=
  Iff.rfl

/-- The bytes of a character are digits if the character is one. -/
theorem utf8EncodeChar_digits_iff {c : Char} :
    (∀ b ∈ String.utf8EncodeChar c, (value? b).isSome = true) ↔ IsDigit c := by
  rw [isDigit_iff]
  simp only [Char.toNat, value?_isSome_iff, UInt8.le_iff_toNat_le]
  generalize hv : c.val.toNat = v
  unfold String.utf8EncodeChar
  simp only [hv]
  -- the first byte of a longer encoding is above all digits
  split
  · simp
    omega
  · split
    · simp
      omega
    · split
      · simp
        omega
      · simp
        omega

/-- A digit is one byte. -/
theorem length_utf8EncodeChar {c : Char} (h : IsDigit c) : (String.utf8EncodeChar c).length = 1 := by
  rw [isDigit_iff] at h
  have hascii : c.toNat ≤ 127 := by omega
  simp [String.utf8EncodeChar, hascii]

theorem length_utf8 {cs : List Char} (h : ∀ c ∈ cs, IsDigit c) :
    (Text.utf8 cs).length = cs.length := by
  induction cs with
  | nil => rfl
  | cons c cs ih =>
    have hc := length_utf8EncodeChar (h c List.mem_cons_self)
    have ih := ih fun d hd => h d (List.mem_cons_of_mem c hd)
    simp only [Text.utf8, List.flatMap_cons, List.length_append, List.length_cons] at ih ⊢
    omega

theorem utf8_digits_iff {cs : List Char} :
    (∀ b ∈ Text.utf8 cs, (value? b).isSome = true) ↔ ∀ c ∈ cs, IsDigit c := by
  simp only [Text.utf8, List.mem_flatMap, forall_exists_index, and_imp]
  constructor
  · intro h c hc
    exact utf8EncodeChar_digits_iff.mp fun b hb => h b c hc hb
  · intro h b c hc hb
    exact utf8EncodeChar_digits_iff.mpr (h c hc) b hb

/-- A text is read as bytes if it is hexadecimal, and in no other case. -/
theorem decode_utf8_iff {text : String} :
    (∃ bytes, decode (Text.utf8 text.toList) = .ok bytes) ↔ IsText text := by
  rw [decode_ok_iff, utf8_digits_iff]
  constructor
  · rintro ⟨heven, hd⟩
    exact ⟨hd, length_utf8 hd ▸ heven⟩
  · rintro ⟨hd, heven⟩
    exact ⟨(length_utf8 hd).symm ▸ heven, hd⟩

/-- The byte of a digit, in lower case. -/
def lower (b : UInt8) : UInt8 := if 65 ≤ b ∧ b ≤ 90 then b + 32 else b

/-! ## What is read -/

theorem digit_of_value? : ∀ b : Fin 256, ∀ v ∈ value? (UInt8.ofNat b.val),
    v.toNat < 16 ∧ lower (UInt8.ofNat b.val) = digit v := by
  decide +kernel

theorem value?_of_digit : ∀ (b : Fin 256) (v : Fin 16),
    lower (UInt8.ofNat b.val) = digit (UInt8.ofNat v.val) →
      value? (UInt8.ofNat b.val) = some (UInt8.ofNat v.val) := by
  decide +kernel

theorem halves_join : ∀ h l : Fin 16,
    ((UInt8.ofNat h.val <<< 4) ||| UInt8.ofNat l.val) >>> 4 = UInt8.ofNat h.val ∧
    ((UInt8.ofNat h.val <<< 4) ||| UInt8.ofNat l.val) &&& 15 = UInt8.ofNat l.val := by
  decide +kernel

/-- What is read is what was written, but for the case of the digits. -/
theorem map_lower_of_decodePairs {index : Nat} {bs out : Bytes}
    (h : decodePairs index bs = .ok out) : bs.map lower = encode out := by
  induction index, bs using decodePairs.induct generalizing out with
  | case1 index =>
    cases h
    rfl
  | case2 index b => cases h
  | case3 index hi lo rest hhi => simp [decodePairs, hhi] at h
  | case4 index hi lo rest v hhi hlo => simp [decodePairs, hhi, hlo] at h
  | case5 index hi lo rest v w hlo hhi ih =>
    simp only [decodePairs, hhi, hlo] at h
    cases hrest : decodePairs (index + 2) rest with
    | error e =>
      rw [hrest] at h
      cases h
    | ok more =>
      rw [hrest] at h
      cases h
      have hhi' := digit_of_value? ⟨hi.toNat, hi.toNat_lt⟩ v (by simpa using hhi)
      have hlo' := digit_of_value? ⟨lo.toNat, lo.toNat_lt⟩ w (by simpa using hlo)
      have hjoin := halves_join ⟨v.toNat, hhi'.1⟩ ⟨w.toNat, hlo'.1⟩
      simp only [UInt8.ofNat_toNat] at hhi' hlo' hjoin
      rw [List.map_cons, List.map_cons, hhi'.2, hlo'.2, ih hrest]
      simp [encode, hjoin]

theorem halves_lt (b : UInt8) : (b >>> 4).toNat < 16 ∧ (b &&& 15).toNat < 16 := by
  constructor
  · have := b.toNat_lt
    simp [Nat.shiftRight_eq_div_pow]
    omega
  · simp only [UInt8.toNat_and]
    exact Nat.lt_of_le_of_lt Nat.and_le_right (by decide)

/-- What is written is read, whatever the case of the digits is. -/
theorem decodePairs_of_map_lower {index : Nat} {bs out : Bytes} (h : bs.map lower = encode out) :
    decodePairs index bs = .ok out := by
  induction out generalizing index bs with
  | nil =>
    have hnil : bs = [] := List.map_eq_nil_iff.mp h
    rw [hnil]
    rfl
  | cons b out ih =>
    have hcons : encode (b :: out) = digit (b >>> 4) :: digit (b &&& 15) :: encode out := rfl
    rw [hcons] at h
    obtain ⟨hi, tail, rfl, hhi, htail⟩ := List.map_eq_cons_iff.mp h
    obtain ⟨lo, rest, rfl, hlo, hrest⟩ := List.map_eq_cons_iff.mp htail
    obtain ⟨hv, hw⟩ := halves_lt b
    have hhi' := value?_of_digit ⟨hi.toNat, hi.toNat_lt⟩ ⟨(b >>> 4).toNat, hv⟩
      (by simpa only [UInt8.ofNat_toNat] using hhi)
    have hlo' := value?_of_digit ⟨lo.toNat, lo.toNat_lt⟩ ⟨(b &&& 15).toNat, hw⟩
      (by simpa only [UInt8.ofNat_toNat] using hlo)
    have hwhole := (value?_halves ⟨b.toNat, b.toNat_lt⟩).2.2
    simp only [UInt8.ofNat_toNat] at hhi' hlo' hwhole
    simp only [decodePairs, hhi', hlo', ih hrest]
    exact congrArg (fun first => Except.ok (first :: out)) hwhole

/-- A byte string is read from its digits, in either case, and from nothing else. -/
theorem decode_eq_ok_iff {bs out : Bytes} : decode bs = .ok out ↔ bs.map lower = encode out := by
  unfold decode
  constructor
  · intro h
    split at h
    · cases h
    · exact map_lower_of_decodePairs h
  · intro h
    have hlength : bs.length = 2 * out.length := by
      rw [← length_encode, ← h, List.length_map]
    rw [if_neg (by omega)]
    exact decodePairs_of_map_lower h

/-- A property of all hexadecimal digits may be tried out. -/
theorem forall_digit {p : Char → Prop}
    (h : ∀ n : Fin 128, IsDigit (Char.ofNat n.val) → p (Char.ofNat n.val)) {c : Char}
    (hc : IsDigit c) : p c := by
  have hsmall : c.toNat < 128 := by
    rw [isDigit_iff] at hc
    omega
  have hc' := h ⟨c.toNat, hsmall⟩
  simp only [Char.ofNat_toNat] at hc'
  exact hc' hc

theorem utf8EncodeChar_digit {c : Char} (h : IsDigit c) :
    String.utf8EncodeChar c = [UInt8.ofNat c.toNat] :=
  forall_digit (p := fun c => String.utf8EncodeChar c = [UInt8.ofNat c.toNat]) (by decide) h

theorem toLower_digit {c : Char} (h : IsDigit c) :
    c.toLower = Char.ofNat (lower (UInt8.ofNat c.toNat)).toNat :=
  forall_digit (p := fun c => c.toLower = Char.ofNat (lower (UInt8.ofNat c.toNat)).toNat)
    (by decide) h

theorem utf8_of_digits {cs : List Char} (h : ∀ c ∈ cs, IsDigit c) :
    Text.utf8 cs = cs.map fun c => UInt8.ofNat c.toNat := by
  induction cs with
  | nil => rfl
  | cons c cs ih =>
    have hc := utf8EncodeChar_digit (h c List.mem_cons_self)
    have hcs := ih fun d hd => h d (List.mem_cons_of_mem c hd)
    simp only [Text.utf8, List.flatMap_cons, List.map_cons] at hcs ⊢
    rw [hc, hcs]
    rfl

theorem isDigit_of_toLower {c : Char} (h : IsDigit c.toLower) : IsDigit c := by
  by_cases hsmall : c.toNat < 128
  · have hc : IsDigit (Char.ofNat c.toNat).toLower → IsDigit (Char.ofNat c.toNat) :=
      (by decide : ∀ n : Fin 128, IsDigit (Char.ofNat n.val).toLower → IsDigit (Char.ofNat n.val))
        ⟨c.toNat, hsmall⟩
    rw [Char.ofNat_toNat] at hc
    exact hc h
  · have hupper : ¬ (c.val ≥ 'A'.val ∧ c.val ≤ 'Z'.val) := by
      rintro ⟨-, hle⟩
      have hle' : c.toNat ≤ 90 := hle
      omega
    have hsame : c.toLower = c := dif_neg hupper
    rwa [hsame] at h

theorem isDigit_of_mem_text {bs : Bytes} {c : Char} (h : c ∈ (text bs).toList) : IsDigit c := by
  have hdigit : ∀ v : Fin 16, IsDigit (Char.ofNat (digit (UInt8.ofNat v.val)).toNat) := by decide
  rw [text, String.toList_ofList] at h
  obtain ⟨d, hd, rfl⟩ := List.mem_map.mp h
  obtain ⟨b, -, hd⟩ := List.mem_flatMap.mp hd
  obtain ⟨hhi, hlo⟩ := halves_lt b
  rcases List.mem_cons.mp hd with rfl | hd
  · simpa only [UInt8.ofNat_toNat] using hdigit ⟨(b >>> 4).toNat, hhi⟩
  · rw [List.mem_singleton.mp hd]
    simpa only [UInt8.ofNat_toNat] using hdigit ⟨(b &&& 15).toNat, hlo⟩

theorem ofNat_toNat_injective : Function.Injective fun b : UInt8 => Char.ofNat b.toNat := by
  have hinv : ∀ n : Fin 256, UInt8.ofNat (Char.ofNat n.val).toNat = UInt8.ofNat n.val := by
    decide +kernel
  intro a b h
  have ha := hinv ⟨a.toNat, a.toNat_lt⟩
  have hb := hinv ⟨b.toNat, b.toNat_lt⟩
  simp only [UInt8.ofNat_toNat] at ha hb h
  rw [← ha, ← hb, h]

/-- A text is read as the bytes that it spells. -/
theorem decode_utf8_eq_ok_iff {cs : List Char} {bs : Bytes} :
    decode (Text.utf8 cs) = .ok bs ↔ Spells cs bs := by
  -- on digits, lower case is the same for characters and for bytes
  have hlower : (∀ c ∈ cs, IsDigit c) → cs.map Char.toLower =
      ((Text.utf8 cs).map lower).map fun b => Char.ofNat b.toNat := by
    intro hdigits
    rw [utf8_of_digits hdigits, List.map_map, List.map_map]
    exact List.map_congr_left fun c hc => toLower_digit (hdigits c hc)
  have htext : (text bs).toList = (encode bs).map fun b => Char.ofNat b.toNat := by
    rw [text, String.toList_ofList]
  constructor
  · intro h
    have hdigits := utf8_digits_iff.mp (decode_ok_iff.mp ⟨bs, h⟩).2
    rw [Spells, hlower hdigits, htext, decode_eq_ok_iff.mp h]
  · intro h
    have hdigits : ∀ c ∈ cs, IsDigit c := by
      intro c hc
      have hmem : c.toLower ∈ (text bs).toList := by
        rw [← h]
        exact List.mem_map_of_mem hc
      exact isDigit_of_toLower (isDigit_of_mem_text hmem)
    rw [Spells, hlower hdigits, htext] at h
    exact decode_eq_ok_iff.mpr ((List.map_inj_right fun _ _ hab => ofNat_toNat_injective hab).mp h)

theorem Spells.length_eq {cs : List Char} {bs : Bytes} (h : Spells cs bs) :
    cs.length = 2 * bs.length := by
  have hlength := congrArg List.length h
  simpa [text] using hlength

theorem Spells.digits {cs : List Char} {bs : Bytes} (h : Spells cs bs) : ∀ c ∈ cs, IsDigit c := by
  have hread := decode_ok_iff.mp ⟨bs, decode_utf8_eq_ok_iff.mpr h⟩
  exact utf8_digits_iff.mp hread.2

/-! ## Texts that are refused -/

/-- Why a byte string is no hexadecimal text: its length is odd, or else a byte is no digit, of which
the first is named. -/
inductive Fault (bs : Bytes) : HexError → Prop
  /-- The length is odd. -/
  | oddLength (h : bs.length % 2 = 1) : Fault bs .oddLength
  /-- A byte is no digit, and all before it are. -/
  | invalidDigit (even : bs.length % 2 = 0) (b : UInt8) (i : Nat) (here : bs[i]? = some b)
    (none : value? b = none) (first : ∀ j < i, ∀ d, bs[j]? = some d → (value? d).isSome = true) :
    Fault bs (.invalidDigit b i)

/-- The first byte that is no digit is found. -/
theorem fault_of_decodePairs {index : Nat} {bs : Bytes} {e : HexError} (heven : bs.length % 2 = 0)
    (h : decodePairs index bs = .error e) :
    ∃ b i, e = .invalidDigit b (index + i) ∧ bs[i]? = some b ∧ value? b = none ∧
      ∀ j < i, ∀ d, bs[j]? = some d → (value? d).isSome = true := by
  induction index, bs using decodePairs.induct with
  | case1 index => cases h
  | case2 index b => simp at heven
  | case3 index hi lo rest hhi =>
    simp only [decodePairs, hhi] at h
    cases h
    exact ⟨hi, 0, rfl, rfl, hhi, fun j hj => absurd hj (Nat.not_lt_zero j)⟩
  | case4 index hi lo rest v hlo hhi =>
    simp only [decodePairs, hhi, hlo] at h
    cases h
    refine ⟨lo, 1, rfl, rfl, hlo, fun j hj d hd => ?_⟩
    have hzero : j = 0 := by omega
    subst hzero
    cases hd
    rw [hhi]
    rfl
  | case5 index hi lo rest v w hlo hhi ih =>
    simp only [decodePairs, hhi, hlo] at h
    cases hrest : decodePairs (index + 2) rest with
    | ok more =>
      rw [hrest] at h
      cases h
    | error cause =>
      rw [hrest] at h
      cases h
      have heven' : rest.length % 2 = 0 := by
        simp only [List.length_cons] at heven
        omega
      obtain ⟨b, i, rfl, hb, hv, hfirst⟩ := ih heven' hrest
      refine ⟨b, i + 2, by rw [Nat.add_assoc, Nat.add_comm 2 i], hb, hv, fun j hj d hd => ?_⟩
      rcases j with _ | _ | j
      · cases hd
        rw [hhi]
        rfl
      · cases hd
        rw [hlo]
        rfl
      · exact hfirst j (by omega) d hd

/-- A byte string that is no hexadecimal text is refused for the right reason. -/
theorem fault_of_decode {bs : Bytes} {e : HexError} (h : decode bs = .error e) : Fault bs e := by
  unfold decode at h
  split at h
  · rename_i hodd
    cases h
    exact .oddLength hodd
  · rename_i heven
    have heven : bs.length % 2 = 0 := by omega
    obtain ⟨b, i, rfl, hb, hv, hfirst⟩ := fault_of_decodePairs heven h
    rw [Nat.zero_add]
    exact .invalidDigit heven b i hb hv hfirst

end EnclaveGate.Hex
