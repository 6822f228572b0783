import EnclaveGate.Proofs.Message.Codec

/-!
# Messages correspond to their bytes

Messages 1 and 3 come from an enclave as bytes that are addressed to a session. Strings of the right
size are messages and are written as they were read, all others are refused for their size, and a
message that is written in such a string is read back. The session is beside the bytes: it is not
written, and it has no say in what is read.
-/

namespace EnclaveGate

variable {M : Type} {sessionId : M → SessionId} {readdress : SessionId → M → M}
  {toBytes : M → Bytes} {parse : SessionId → Bytes → Except Error M} {admits : Nat → Prop}
  {fits : M → Prop} {refusal : Nat → FormatError}

/-- The messages of one kind that fit are exactly the strings of an admitted size. -/
structure TravelsExactly (sessionId : M → SessionId) (readdress : SessionId → M → M)
    (toBytes : M → Bytes) (parse : SessionId → Bytes → Except Error M) (admits : Nat → Prop)
    (fits : M → Prop) (refusal : Nat → FormatError) : Prop where
  /-- A string is read if it has an admitted size. -/
  accepted : ∀ id bs, (∃ m, parse id bs = .ok m) ↔ admits bs.length
  /-- Every other string is refused for its size. -/
  refused : ∀ id bs, ¬ admits bs.length → parse id bs = .error (.invalidFormat (refusal bs.length))
  /-- What is read is addressed as it came, and written as the same bytes again. -/
  rewritten : ∀ id bs m, parse id bs = .ok m → sessionId m = id ∧ toBytes m = bs
  /-- A message that fits is read back. -/
  reread : ∀ m, fits m → parse (sessionId m) (toBytes m) = .ok m
  /-- Every other message is refused. -/
  unread : ∀ m, ¬ fits m → parse (sessionId m) (toBytes m) =
    .error (.invalidFormat (refusal (toBytes m).length))
  /-- A message to another session has the same bytes. -/
  unaddressed : ∀ id m, toBytes (readdress id m) = toBytes m
  /-- The same bytes for another session are the same message to that session. -/
  readdressed : ∀ id other bs, parse other bs = (parse id bs).map (readdress other)

/-- It is enough to know which strings are read, and that reading and writing undo each other. -/
theorem TravelsExactly.of_sizes (accepts : ∀ id bs, admits bs.length → ∃ m, parse id bs = .ok m)
    (refuses : ∀ id bs, ¬ admits bs.length →
      parse id bs = .error (.invalidFormat (refusal bs.length)))
    (rewritten : ∀ id bs m, parse id bs = .ok m → sessionId m = id ∧ toBytes m = bs)
    (reread : ∀ m, fits m → parse (sessionId m) (toBytes m) = .ok m)
    (sized : ∀ m, admits (toBytes m).length ↔ fits m)
    (addressed : ∀ id m, sessionId (readdress id m) = id ∧ toBytes (readdress id m) = toBytes m) :
    TravelsExactly sessionId readdress toBytes parse admits fits refusal := by
  constructor
  case accepted =>
    intro id bs
    by_cases h : admits bs.length
    · exact iff_of_true (accepts id bs h) h
    · rw [refuses id bs h]
      exact iff_of_false (by simp) h
  case refused => exact refuses
  case rewritten => exact rewritten
  case reread => exact reread
  case unread =>
    intro m h
    exact refuses (sessionId m) (toBytes m) (mt (sized m).mp h)
  case unaddressed => exact fun id m => (addressed id m).2
  case readdressed =>
    intro id other bs
    by_cases h : admits bs.length
    · obtain ⟨m, hm⟩ := accepts id bs h
      obtain ⟨-, hbytes⟩ := rewritten id bs m hm
      obtain ⟨hid, hsame⟩ := addressed other m
      have hfits : fits (readdress other m) := by
        rw [← sized, hsame, hbytes]
        exact h
      have hread := reread (readdress other m) hfits
      rw [hid, hsame, hbytes] at hread
      rw [hread, hm]
      rfl
    · rw [refuses id bs h, refuses other bs h]
      rfl

theorem Msg1.travelsExactly : TravelsExactly Msg1.sessionId (fun id m => { m with sessionId := id })
    Msg1.toBytes Msg1.parse (· = 68) (fun _ => True) .msg1Size := by
  apply TravelsExactly.of_sizes
  case accepts =>
    intro id bs h
    have hsize : bs.length = Msg1.size := h
    rw [Msg1.parse, dif_pos hsize]
    exact ⟨_, rfl⟩
  case refuses => exact fun _ _ => Msg1.parse_of_length_ne
  case rewritten => exact fun _ _ _ => Msg1.toBytes_of_parse
  case reread => exact fun m _ => Msg1.parse_toBytes m
  case sized => exact fun m => iff_true_intro (Msg1.length_toBytes m)
  case addressed => exact fun _ _ => ⟨rfl, rfl⟩

theorem Msg3.travelsExactly : TravelsExactly Msg3.sessionId (fun id m => { m with sessionId := id })
    Msg3.toBytes Msg3.parse (772 ≤ ·) (fun m => 436 ≤ m.quote.length) .msg3Size := by
  apply TravelsExactly.of_sizes
  case accepts =>
    intro id bs h
    have hsize : Msg3.minSize ≤ bs.length := h
    rw [Msg3.parse, dif_pos hsize]
    exact ⟨_, rfl⟩
  case refuses => exact fun _ _ h => Msg3.parse_of_length_lt (Nat.lt_of_not_le h)
  case rewritten =>
    intro id bs m h
    obtain ⟨hid, -, hbytes⟩ := Msg3.toBytes_of_parse h
    exact ⟨hid, hbytes⟩
  case reread => exact fun _ => Msg3.parse_toBytes
  case sized =>
    intro m
    rw [Msg3.length_toBytes, Msg3.quoteOffset]
    omega
  case addressed => exact fun _ _ => ⟨rfl, rfl⟩

/-- Message 1 has 68 bytes, and message 3 has 772 or more, of which 436 or more are the quote. -/
theorem messages_travel_exactly :
    TravelsExactly Msg1.sessionId (fun id m => { m with sessionId := id }) Msg1.toBytes Msg1.parse
      (· = 68) (fun _ => True) .msg1Size ∧
    TravelsExactly Msg3.sessionId (fun id m => { m with sessionId := id }) Msg3.toBytes Msg3.parse
      (772 ≤ ·) (fun m => 436 ≤ m.quote.length) .msg3Size :=
  ⟨Msg1.travelsExactly, Msg3.travelsExactly⟩

end EnclaveGate
