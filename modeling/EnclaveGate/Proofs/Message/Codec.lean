import EnclaveGate.Message.Codec
import EnclaveGate.Proofs.Quote.Codec

/-!
# Reading messages that were written

Message 1 is read back from its bytes, and so is message 3 if its quote has room for a body and the
length of a signature. What is read is written as the same bytes again, and bytes of the wrong number
are refused. So a quote that came in bytes is never too short to be one.
-/

namespace EnclaveGate

/-- A block is cut out where its bytes are. -/
theorem Bytes.slice_eq {bs : Bytes} {offset n : Nat} {b : Block n} {h : offset + n ≤ bs.length}
    (hb : (bs.drop offset).take n = b.toList) : bs.slice offset n h = b := by
  apply Block.eq_of_toList_eq
  rw [toList_slice, hb]

/-- The next piece and what comes behind it make up what was left. -/
theorem Bytes.take_append_drop_add (bs : Bytes) (offset n : Nat) :
    (bs.drop offset).take n ++ bs.drop (offset + n) = bs.drop offset := by
  rw [← List.drop_drop, List.take_append_drop]

namespace WireKey

/-- A key is read back from its bytes. -/
theorem ofBytes_eq {bs : Bytes} {key : WireKey} {h : bs.length = 64} (hb : bs = key.toBytes) :
    ofBytes bs h = key := by
  subst hb
  have hx : (key.toBytes.drop 0).take 32 = key.x.toList := List.take_left' (by simp)
  have hy : (key.toBytes.drop 32).take 32 = key.y.toList := by
    rw [toBytes, List.drop_left' (by simp)]
    exact List.take_of_length_le (by simp)
  rw [ofBytes, Bytes.slice_eq hx, Bytes.slice_eq hy]

/-- What is read as a key is written as the same bytes again. -/
theorem toBytes_ofBytes (bs : Bytes) (h : bs.length = 64) : (ofBytes bs h).toBytes = bs := by
  have rest : (bs.drop 32).take 32 = bs.drop 32 :=
    List.take_of_length_le (by rw [List.length_drop]; omega)
  simp only [ofBytes, toBytes, Bytes.toList_slice, List.drop_zero, rest, List.take_append_drop]

end WireKey

/-! ## Message 1 -/

namespace Msg1

variable {id : SessionId} {bs : Bytes} {m : Msg1}

@[simp] theorem length_toBytes (m : Msg1) : m.toBytes.length = size := by simp [toBytes, size]

/-- Message 1 is read back from its bytes. -/
theorem parse_toBytes (m : Msg1) : parse m.sessionId m.toBytes = .ok m := by
  have hkey : m.toBytes.take 64 = m.ga.toBytes := List.take_left' (by simp)
  have hgroup : (m.toBytes.drop 64).take 4 = m.groupId.toList := by
    rw [toBytes, List.drop_left' (by simp)]
    exact List.take_of_length_le (by simp)
  unfold parse
  rw [dif_pos (length_toBytes m), WireKey.ofBytes_eq hkey, Bytes.slice_eq hgroup]

/-- Bytes of the wrong number are refused. -/
theorem parse_of_length_ne (h : bs.length ≠ size) :
    parse id bs = .error (.invalidFormat (.msg1Size bs.length)) := by
  rw [parse, dif_neg h]

/-- What is read as message 1 is written as the same bytes again. -/
theorem toBytes_of_parse (h : parse id bs = .ok m) : m.sessionId = id ∧ m.toBytes = bs := by
  unfold parse at h
  split at h
  · rename_i hl
    cases h
    have rest : (bs.drop 64).take 4 = bs.drop 64 :=
      List.take_of_length_le (by rw [List.length_drop, hl]; decide)
    refine ⟨rfl, ?_⟩
    simp only [toBytes, WireKey.toBytes_ofBytes, Bytes.toList_slice, rest, List.take_append_drop]
  · cases h

end Msg1

/-! ## Message 3 -/

namespace Msg3

variable {id : SessionId} {bs : Bytes} {m : Msg3}

/-- The quote of a message 3 has room for a body and the length of a signature. -/
def Fits (m : Msg3) : Prop := QuoteBody.minSize ≤ m.quote.length

theorem length_toBytes (m : Msg3) : m.toBytes.length = quoteOffset + m.quote.length := by
  simp only [toBytes, macRegion, quoteOffset, List.length_append, Vector.length_toList,
    WireKey.length_toBytes]
  omega

/-- The fields of message 3 are read at their offsets. -/
theorem fields_toBytes (m : Msg3) :
    (m.toBytes.drop 0).take 16 = m.cmac.toList ∧
    (m.toBytes.drop 16).take 64 = m.ga.toBytes ∧
    (m.toBytes.drop 80).take 256 = m.psSecurityProperties.toList ∧
    m.toBytes.drop quoteOffset = m.quote := by
  have behind : m.toBytes.drop quoteOffset = m.quote := by
    rw [toBytes, macRegion, ← List.append_assoc, ← List.append_assoc]
    exact List.drop_left' (by simp [quoteOffset])
  refine ⟨?_, ?_, ?_, behind⟩
  all_goals
    simp (disch := simp) only [toBytes, macRegion, List.append_assoc, Bytes.piece_behind,
      Bytes.piece_before, Bytes.piece_all, Vector.length_toList, WireKey.length_toBytes,
      Nat.reduceSub]

/-- Message 3 is read back from its bytes, if its quote is long enough. -/
theorem parse_toBytes (h : m.Fits) : parse m.sessionId m.toBytes = .ok m := by
  have hl : minSize ≤ m.toBytes.length := by
    rw [length_toBytes]
    simp only [Fits, QuoteBody.minSize] at h
    simp only [minSize, quoteOffset]
    omega
  obtain ⟨hcmac, hkey, hprops, hquote⟩ := fields_toBytes m
  unfold parse
  rw [dif_pos hl, Bytes.slice_eq hcmac, WireKey.ofBytes_eq hkey, Bytes.slice_eq hprops, hquote]

/-- Too few bytes are refused. -/
theorem parse_of_length_lt (h : bs.length < minSize) :
    parse id bs = .error (.invalidFormat (.msg3Size bs.length)) := by
  rw [parse, dif_neg (Nat.not_le.mpr h)]

/-- What is read as message 3 has a quote that is long enough, and is written as the same bytes
again. -/
theorem toBytes_of_parse (h : parse id bs = .ok m) :
    m.sessionId = id ∧ m.Fits ∧ m.toBytes = bs := by
  unfold parse at h
  split at h
  · rename_i hl
    cases h
    refine ⟨rfl, ?_, ?_⟩
    · simp only [minSize] at hl
      simp only [Fits, QuoteBody.minSize, quoteOffset, List.length_drop]
      omega
    · have hcmac := Bytes.take_append_drop_add bs 0 16
      have hkey := Bytes.take_append_drop_add bs 16 64
      have hprops := Bytes.take_append_drop_add bs 80 256
      simp only [toBytes, macRegion, WireKey.toBytes_ofBytes, Bytes.toList_slice, List.append_assoc,
        quoteOffset]
      rw [hprops, hkey, hcmac, List.drop_zero]
  · cases h

/-- A quote that is long enough is never refused for being too short. -/
theorem Fits.parse_ne (h : m.Fits) (n : Nat) :
    QuoteBody.parse m.quote ≠ .error (.invalidFormat (.quoteSize n)) := by
  intro he
  have hl : QuoteBody.minSize ≤ m.quote.length := h
  unfold QuoteBody.parse at he
  rw [dif_pos hl] at he
  dsimp only at he
  split at he <;> cases he

end Msg3

end EnclaveGate
