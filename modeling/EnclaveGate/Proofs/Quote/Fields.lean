import EnclaveGate.Proofs.Wire.Codec
import EnclaveGate.Quote.Binding

/-!
# The fields of a quote

A quote is read exactly if it has room for a body and the length of a signature, and the length is
that of what follows. The body that is read has the bytes of seven fields, which stand apart from
each other; no other byte matters.
-/

namespace EnclaveGate

namespace Bytes

theorem natLE_piece_lt (bs : Bytes) (offset n : Nat) :
    natLE ((bs.drop offset).take n) < bound n := by
  have hlt := natLE_lt ((bs.drop offset).take n)
  have hlength : ((bs.drop offset).take n).length ≤ n := by
    rw [List.length_take]
    exact Nat.min_le_left ..
  exact Nat.lt_of_lt_of_le hlt (bound_le_bound hlength)

/-- The bytes of a piece are those of its number. -/
theorem leBytes_natLE_piece {bs : Bytes} {offset n : Nat} (h : offset + n ≤ bs.length) :
    leBytes n (natLE ((bs.drop offset).take n)) = (bs.drop offset).take n := by
  have hlength : ((bs.drop offset).take n).length = n := by
    rw [List.length_take, List.length_drop]
    omega
  have hbytes := leBytes_natLE ((bs.drop offset).take n)
  rwa [hlength] at hbytes

end Bytes

namespace QuoteBody

/-! ## The fields -/

/-- The fields of a quote that are read. -/
inductive Field
  | groupId
  | attributeFlags
  | mrEnclave
  | mrSigner
  | isvProdId
  | isvSvn
  | reportData
deriving DecidableEq

namespace Field

/-- The position of the first byte of a field. -/
def start : Field → Nat
  | groupId => 4
  | attributeFlags => 96
  | mrEnclave => 112
  | mrSigner => 176
  | isvProdId => 304
  | isvSvn => 306
  | reportData => 368

/-- The position of the first byte behind a field. -/
def stop : Field → Nat
  | groupId => 8
  | attributeFlags => 104
  | mrEnclave => 144
  | mrSigner => 208
  | isvProdId => 306
  | isvSvn => 308
  | reportData => 432

/-- A position lies in a field. -/
def Covers (field : Field) (i : Nat) : Prop := field.start ≤ i ∧ i < field.stop

/-- The bytes of a field in a quote. -/
def cut (field : Field) (quote : Bytes) : Bytes :=
  (quote.drop field.start).take (field.stop - field.start)

/-- The bytes of a field that has the value it has in a body. -/
def bytes (body : QuoteBody) : Field → Bytes
  | groupId => body.groupId.toList
  | attributeFlags => Bytes.leBytes 8 body.attributeFlags.toNat
  | mrEnclave => body.mrEnclave.toList
  | mrSigner => body.mrSigner.toList
  | isvProdId => Bytes.leBytes 2 body.isvProdId.toNat
  | isvSvn => Bytes.leBytes 2 body.isvSvn.toNat
  | reportData => body.reportData.toList

/-- The fields in the order of their positions. -/
def inOrder : List Field :=
  [groupId, attributeFlags, mrEnclave, mrSigner, isvProdId, isvSvn, reportData]

/-- Two fields share no byte. -/
theorem apart {field other : Field} (h : field ≠ other) :
    field.stop ≤ other.start ∨ other.stop ≤ field.start := by
  revert h
  cases field <;> cases other <;> decide

/-- The bytes of a field depend on its own positions only. -/
theorem cut_congr {field : Field} {quote other : Bytes}
    (h : ∀ i, field.Covers i → other[i]? = quote[i]?) : field.cut other = field.cut quote := by
  apply List.ext_getElem?
  intro i
  rw [cut, cut, List.getElem?_take, List.getElem?_take]
  by_cases hi : i < field.stop - field.start
  · rw [if_pos hi, if_pos hi, List.getElem?_drop, List.getElem?_drop]
    exact h (field.start + i) ⟨by omega, by omega⟩
  · rw [if_neg hi, if_neg hi]

/-- A body is told by the bytes of its fields. -/
theorem eq_of_bytes {body other : QuoteBody}
    (h : ∀ field : Field, field.bytes body = field.bytes other) : body = other := by
  have hgroup := Block.eq_of_toList_eq (h groupId)
  have henclave := Block.eq_of_toList_eq (h mrEnclave)
  have hsigner := Block.eq_of_toList_eq (h mrSigner)
  have hreport := Block.eq_of_toList_eq (h reportData)
  have hflags := UInt64.toNat_inj.mp (Bytes.leBytes_inj body.attributeFlags.toNat_lt
    other.attributeFlags.toNat_lt (h attributeFlags))
  have hprod := UInt16.toNat_inj.mp (Bytes.leBytes_inj body.isvProdId.toNat_lt
    other.isvProdId.toNat_lt (h isvProdId))
  have hsvn := UInt16.toNat_inj.mp (Bytes.leBytes_inj body.isvSvn.toNat_lt
    other.isvSvn.toNat_lt (h isvSvn))
  cases body
  cases other
  simp only at hgroup henclave hsigner hreport hflags hprod hsvn
  rw [hgroup, hflags, henclave, hsigner, hprod, hsvn, hreport]

end Field

/-! ## Reading -/

variable {quote : Bytes} {body : QuoteBody}

/-- There is room for a body and the length of a signature, and as many bytes follow as that length
says. -/
def IsWellSized (quote : Bytes) : Prop :=
  minSize ≤ quote.length ∧ numberAt quote 432 4 = quote.length - minSize

theorem exists_parse (h : IsWellSized quote) : ∃ body, parse quote = .ok body := by
  obtain ⟨hmin, hsize⟩ := h
  unfold parse
  rw [dif_pos hmin]
  simp only [hsize, if_true]
  exact ⟨_, rfl⟩

theorem isWellSized_of_parse (h : parse quote = .ok body) : IsWellSized quote := by
  unfold parse at h
  by_cases hmin : minSize ≤ quote.length
  · rw [dif_pos hmin] at h
    by_cases hsize : quote.length - minSize = numberAt quote 432 4
    · exact ⟨hmin, hsize.symm⟩
    · simp only [hsize, if_false] at h
      cases h
  · rw [dif_neg hmin] at h
    cases h

/-- What is read has the bytes of the quote. -/
theorem bytes_of_parse (h : parse quote = .ok body) (field : Field) :
    field.bytes body = field.cut quote := by
  obtain ⟨hmin, hsize⟩ := isWellSized_of_parse h
  have hroom : 436 ≤ quote.length := hmin
  have hflags : numberAt quote 96 8 < 2 ^ 64 := Bytes.natLE_piece_lt quote 96 8
  have hprod : numberAt quote 304 2 < 2 ^ 16 := Bytes.natLE_piece_lt quote 304 2
  have hsvn : numberAt quote 306 2 < 2 ^ 16 := Bytes.natLE_piece_lt quote 306 2
  unfold parse at h
  rw [dif_pos hmin] at h
  simp only [hsize, if_true] at h
  cases h
  cases field with
  | groupId => exact Bytes.toList_slice quote 4 4 (by omega)
  | mrEnclave => exact Bytes.toList_slice quote 112 32 (by omega)
  | mrSigner => exact Bytes.toList_slice quote 176 32 (by omega)
  | reportData => exact Bytes.toList_slice quote 368 64 (by omega)
  | attributeFlags =>
    rw [Field.bytes, UInt64.toNat_ofNat_of_lt' hflags]
    exact Bytes.leBytes_natLE_piece (by omega)
  | isvProdId =>
    rw [Field.bytes, UInt16.toNat_ofNat_of_lt' hprod]
    exact Bytes.leBytes_natLE_piece (by omega)
  | isvSvn =>
    rw [Field.bytes, UInt16.toNat_ofNat_of_lt' hsvn]
    exact Bytes.leBytes_natLE_piece (by omega)

/-- Reading finds the body that has the bytes of a quote of the right size. -/
theorem parse_eq_ok_iff : parse quote = .ok body ↔
    IsWellSized quote ∧ ∀ field : Field, field.bytes body = field.cut quote := by
  constructor
  · intro h
    exact ⟨isWellSized_of_parse h, bytes_of_parse h⟩
  · rintro ⟨hsize, hbytes⟩
    obtain ⟨found, hfound⟩ := exists_parse hsize
    have hsame : found = body := by
      apply Field.eq_of_bytes
      intro field
      rw [bytes_of_parse hfound, hbytes]
    rw [hfound, hsame]

end QuoteBody

end EnclaveGate
