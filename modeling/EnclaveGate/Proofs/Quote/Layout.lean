import EnclaveGate.Proofs.Quote.Codec

/-!
# What a quote says, and where it says it

A quote is read for its fields and for nothing else, and no byte behind its end is looked at.
Writing puts each field over zeros, and what was written is read back, whatever signature is put
behind it.
-/

namespace EnclaveGate

namespace Bytes

/-- The string with other bytes from a position on. -/
def overwrite (bs : Bytes) (offset : Nat) (piece : Bytes) : Bytes :=
  bs.take offset ++ piece ++ bs.drop (offset + piece.length)

theorem overwrite_behind {front rest piece : Bytes} {offset : Nat} (h : front.length ≤ offset) :
    overwrite (front ++ rest) offset piece =
      front ++ overwrite rest (offset - front.length) piece := by
  have hdrop : offset + piece.length - front.length = offset - front.length + piece.length := by
    omega
  rw [overwrite, overwrite, List.take_append, List.take_of_length_le h, List.drop_append,
    List.drop_of_length_le (by omega), hdrop, List.nil_append, List.append_assoc, List.append_assoc,
    List.append_assoc]

theorem overwrite_here {old rest piece : Bytes} (h : old.length = piece.length) :
    overwrite (old ++ rest) 0 piece = piece ++ rest := by
  rw [overwrite, List.take_zero, List.nil_append, Nat.zero_add, ← h, List.drop_left]

/-- The `n` bytes that start at `offset`, if the string does not end before. -/
def slice? (bs : Bytes) (offset n : Nat) : Option (Block n) :=
  if h : offset + n ≤ bs.length then some (bs.slice offset n h) else none

theorem slice?_eq {bs : Bytes} {offset n : Nat} (h : offset + n ≤ bs.length) :
    bs.slice? offset n = some (bs.slice offset n h) := dif_pos h

@[simp] theorem natLE_slice {bs : Bytes} {offset n : Nat} (h : offset + n ≤ bs.length) :
    (bs.slice offset n h).natLE = natLE ((bs.drop offset).take n) := by
  rw [Block.natLE, toList_slice]

end Bytes

namespace QuoteBody

/-! ## Reading with every access checked -/

/-- The difference of two numbers, if it is not negative. -/
def difference? (a b : Nat) : Option Nat := if b ≤ a then some (a - b) else none

/-- Reading in which nothing comes of an access behind the end or of a negative difference. -/
def parseChecked (quote : Bytes) : Option (Except Error QuoteBody) :=
  if quote.length < minSize then some (.error (.invalidFormat (.quoteSize quote.length)))
  else do
    let declared ← quote.slice? 432 4
    let trailing ← difference? quote.length minSize
    if trailing = declared.natLE then
      let groupId ← quote.slice? 4 4
      let mrEnclave ← quote.slice? 112 32
      let mrSigner ← quote.slice? 176 32
      let reportData ← quote.slice? 368 64
      let attributeFlags ← quote.slice? 96 8
      let isvProdId ← quote.slice? 304 2
      let isvSvn ← quote.slice? 306 2
      return .ok
        { groupId, mrEnclave, mrSigner, reportData
          attributeFlags := UInt64.ofNat attributeFlags.natLE
          isvProdId := UInt16.ofNat isvProdId.natLE
          isvSvn := UInt16.ofNat isvSvn.natLE }
    else return .error (.invalidFormat (.signatureLength declared.natLE trailing))

/-- No access is ever behind the end, and no difference is negative. -/
theorem parseChecked_eq (quote : Bytes) : parseChecked quote = some (parse quote) := by
  unfold parseChecked parse
  by_cases hmin : minSize ≤ quote.length
  · have hroom : 436 ≤ quote.length := hmin
    have hslice : ∀ offset n (h : offset + n ≤ 436),
        quote.slice? offset n = some (quote.slice offset n (by omega)) := by
      intro offset n h
      exact Bytes.slice?_eq (by omega)
    have htrailing : difference? quote.length minSize = some (quote.length - minSize) :=
      if_pos hmin
    rw [if_neg (Nat.not_lt.mpr hmin), dif_pos hmin, hslice 432 4 (by decide), htrailing,
      hslice 4 4 (by decide), hslice 112 32 (by decide), hslice 176 32 (by decide),
      hslice 368 64 (by decide), hslice 96 8 (by decide), hslice 304 2 (by decide),
      hslice 306 2 (by decide)]
    simp only [Option.bind_eq_bind, Option.bind_some, Bytes.natLE_slice]
    by_cases hsize : quote.length - minSize = numberAt quote 432 4
    · have hsize' : quote.length - minSize = Bytes.natLE ((quote.drop 432).take 4) := hsize
      rw [if_pos hsize, if_pos hsize']
      rfl
    · have hsize' : quote.length - minSize ≠ Bytes.natLE ((quote.drop 432).take 4) := hsize
      rw [if_neg hsize, if_neg hsize']
      rfl
  · rw [if_pos (Nat.lt_of_not_le hmin), dif_neg hmin]

/-! ## Writing -/

variable (body : QuoteBody) (signature : Bytes)

/-- Writing puts the version and each field over zeros. -/
theorem unsignedQuote_eq : body.unsignedQuote =
    Field.inOrder.foldl (fun quote field => quote.overwrite field.start (field.bytes body))
      (Bytes.overwrite (List.replicate 436 0) 0 [2, 0]) := by
  have hzeros : List.replicate 436 (0 : UInt8) =
      List.replicate 2 0 ++ (List.replicate 2 0 ++ (List.replicate 4 0 ++ (List.replicate 88 0 ++
      (List.replicate 8 0 ++ (List.replicate 8 0 ++ (List.replicate 32 0 ++
      (List.replicate 32 0 ++ (List.replicate 32 0 ++ (List.replicate 96 0 ++
      (List.replicate 2 0 ++ (List.replicate 2 0 ++ (List.replicate 60 0 ++
      (List.replicate 64 0 ++ List.replicate 4 0))))))))))))) := by
    simp only [List.replicate_append_replicate]
  rw [hzeros]
  simp (disch := simp) only [Field.inOrder, List.foldl_cons, List.foldl_nil, Field.start,
    Field.bytes, Bytes.overwrite_behind, Bytes.overwrite_here, List.length_cons, List.length_nil,
    List.length_replicate, Vector.length_toList, Bytes.length_leBytes, Nat.reduceAdd, Nat.reduceSub]
  simp only [unsignedQuote, quoteWith, toBytes, List.append_assoc]
  rfl

/-- A signature is put behind a quote by writing its length over the old one. -/
theorem overwrite_unsignedQuote :
    body.unsignedQuote.overwrite 432 (Bytes.leBytes 4 signature.length) ++ signature =
      body.quoteWith signature := by
  rw [unsignedQuote, quoteWith, List.append_nil, Bytes.overwrite_behind (by simp),
    length_toBytes, Nat.sub_self, ← List.append_nil (Bytes.leBytes 4 ([] : Bytes).length),
    Bytes.overwrite_here (by simp), List.append_nil, quoteWith]

/-! ## All quotes -/

/-- Quotes are read for what they say and for nothing else, and read back as they were written. -/
structure ReadExactly : Prop where
  /-- A string is read if it has room for a body and the length of a signature, and as many bytes
  follow as that length says. -/
  accepted : ∀ quote, (∃ body, parse quote = .ok body) ↔
    436 ≤ quote.length ∧ Bytes.natLE ((quote.drop 432).take 4) = quote.length - 436
  /-- Of a string that is read, the body is the one that has the bytes of its fields. -/
  fields : ∀ quote body, IsWellSized quote →
    (parse quote = .ok body ↔ ∀ field : Field, field.bytes body = field.cut quote)
  /-- Two fields share no byte. -/
  disjoint : ∀ field other : Field, field ≠ other →
    field.stop ≤ other.start ∨ other.stop ≤ field.start
  /-- Another string with the same bytes in all fields is read as the same body, if it is read. -/
  framed : ∀ quote other body, parse quote = .ok body → (∃ found, parse other = .ok found) →
    (∀ i, (∃ field : Field, field.Covers i) → other[i]? = quote[i]?) → parse other = .ok body
  /-- What is written is the fields over zeros, behind the version. -/
  written : ∀ body : QuoteBody, body.unsignedQuote =
    Field.inOrder.foldl (fun quote field => quote.overwrite field.start (field.bytes body))
      (Bytes.overwrite (List.replicate 436 0) 0 [2, 0])
  /-- What is written is read back. -/
  unsigned : ∀ body : QuoteBody, parse body.unsignedQuote = .ok body
  /-- So it is with a signature behind it, whose length is written over the old one. -/
  signed : ∀ (body : QuoteBody) (signature : Bytes), signature.length < 4294967296 →
    parse (body.unsignedQuote.overwrite 432 (Bytes.leBytes 4 signature.length) ++ signature) =
      .ok body
  /-- No access is ever behind the end. -/
  inBounds : ∀ quote, parseChecked quote = some (parse quote)

/-- All quotes are read exactly. -/
theorem quotes_read_exactly : ReadExactly := by
  constructor
  case accepted =>
    intro quote
    constructor
    · rintro ⟨body, h⟩
      exact isWellSized_of_parse h
    · exact exists_parse
  case fields =>
    intro quote body hsize
    rw [parse_eq_ok_iff]
    exact and_iff_right hsize
  case disjoint => exact fun _ _ => Field.apart
  case framed =>
    intro quote other body h hfound hsame
    obtain ⟨found, hfound⟩ := hfound
    refine parse_eq_ok_iff.mpr ⟨isWellSized_of_parse hfound, fun field => ?_⟩
    rw [bytes_of_parse h, Field.cut_congr fun i hi => hsame i ⟨field, hi⟩]
  case written => exact unsignedQuote_eq
  case unsigned => exact fun body => parse_quoteWith body [] (by decide)
  case signed =>
    intro body signature h
    rw [overwrite_unsignedQuote]
    exact parse_quoteWith body signature h
  case inBounds => exact parseChecked_eq

end QuoteBody

end EnclaveGate
