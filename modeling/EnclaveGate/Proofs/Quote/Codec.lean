import EnclaveGate.Proofs.Quote.Fields

/-!
# Reading a quote that was written

A quote that is made of a body and a signature is read back as that body, whatever the signature.
-/

namespace EnclaveGate

namespace Bytes

/-- What comes before the bytes that are read does not matter. -/
theorem piece_behind {front rest : Bytes} {offset n : Nat} (h : front.length ≤ offset) :
    ((front ++ rest).drop offset).take n = (rest.drop (offset - front.length)).take n := by
  rw [List.drop_append, List.drop_of_length_le h, List.nil_append]

/-- What comes after the bytes that are read does not matter. -/
theorem piece_before {front rest : Bytes} {offset n : Nat} (h : offset + n ≤ front.length) :
    ((front ++ rest).drop offset).take n = (front.drop offset).take n := by
  rw [List.drop_append_of_le_length (by omega),
    List.take_append_of_le_length (by rw [List.length_drop]; omega)]

theorem piece_all {field : Bytes} {n : Nat} (h : field.length = n) :
    (field.drop 0).take n = field := by
  rw [List.drop_zero, List.take_of_length_le (by omega)]

end Bytes

namespace QuoteBody

variable (body : QuoteBody) (signature : Bytes)

@[simp] theorem length_toBytes : body.toBytes.length = 432 := by
  simp only [toBytes, List.length_append, List.length_cons, List.length_nil, List.length_replicate,
    Vector.length_toList, Bytes.length_leBytes]

theorem length_quoteWith : (body.quoteWith signature).length = minSize + signature.length := by
  simp only [quoteWith, minSize, List.length_append, length_toBytes, Bytes.length_leBytes]

/-- The fields of the body stand at their positions. -/
theorem cut_toBytes (field : Field) : field.cut body.toBytes = field.bytes body := by
  cases field <;>
    simp (disch := simp) only [Field.cut, Field.start, Field.stop, Field.bytes, toBytes,
      List.append_assoc, Bytes.piece_behind, Bytes.piece_before, Bytes.piece_all, List.length_cons,
      List.length_nil, List.length_replicate, Vector.length_toList, Bytes.length_leBytes,
      Nat.reduceAdd, Nat.reduceSub]

/-- What is put behind the body does not matter to its fields. -/
theorem cut_quoteWith (field : Field) :
    field.cut (body.quoteWith signature) = field.bytes body := by
  have hroom : field.start + (field.stop - field.start) ≤ body.toBytes.length := by
    rw [length_toBytes]
    cases field <;> decide
  rw [← cut_toBytes body field, quoteWith, List.append_assoc]
  exact Bytes.piece_before hroom

/-- The declared length of the signature is its length. -/
theorem declared_quoteWith (h : signature.length < Bytes.bound 4) :
    numberAt (body.quoteWith signature) 432 4 = signature.length := by
  have hp : ((body.quoteWith signature).drop 432).take 4 = Bytes.leBytes 4 signature.length := by
    rw [quoteWith, List.append_assoc, List.drop_left' (length_toBytes body),
      List.take_left' (Bytes.length_leBytes 4 _)]
  rw [numberAt, hp, Bytes.natLE_leBytes, Nat.mod_eq_of_lt h]

theorem isWellSized_quoteWith (h : signature.length < Bytes.bound 4) :
    IsWellSized (body.quoteWith signature) := by
  rw [IsWellSized, declared_quoteWith body signature h, length_quoteWith]
  exact ⟨Nat.le_add_right .., (Nat.add_sub_cancel_left ..).symm⟩

/-- A quote is read back as the body that it was made of. -/
theorem parse_quoteWith (h : signature.length < Bytes.bound 4) :
    parse (body.quoteWith signature) = .ok body :=
  parse_eq_ok_iff.mpr
    ⟨isWellSized_quoteWith body signature h, fun field => (cut_quoteWith body signature field).symm⟩

end QuoteBody

end EnclaveGate
