import EnclaveGate.Proofs.Message.Codec
import EnclaveGate.Proofs.Server.Replies
import EnclaveGate.Proofs.Session.Rejection

/-!
# Messages in bytes

Messages can be handed to a server in bytes. Bytes that are no message are refused before the server
looks at anything. All other bytes are handled as the message that they are read as, and every message
that could have come in bytes is read as itself. So a server that gets its messages in bytes takes the
same turns as one that gets the messages themselves, and a quote that came in bytes is never refused
for being too short.
-/

namespace EnclaveGate

/-- A message in bytes, with the id of the session for which it came. -/
inductive Parcel
  /-- The bytes should be message 1. -/
  | msg1 (id : SessionId) (bytes : Bytes)
  /-- The bytes should be message 3. -/
  | msg3 (id : SessionId) (bytes : Bytes)

namespace Parcel

/-- What a parcel is answered with: message 2 goes back in bytes. -/
inductive Answer
  /-- What message 1 is answered with. -/
  | msg2 (result : Except Error Bytes)
  /-- What message 3 is answered with. -/
  | msg4 (result : Except Error Msg4)

/-- The request that is in a parcel. -/
def request : Parcel → Except Error Request
  | msg1 id bytes => Request.ofMsg1Bytes id bytes
  | msg3 id bytes => Request.ofMsg3Bytes id bytes

/-- A parcel is answered with a failure. -/
def refuse (cause : Error) : Parcel → Answer
  | msg1 _ _ => .msg2 (.error cause)
  | msg3 _ _ => .msg4 (.error cause)

end Parcel

namespace Request

/-- A request in bytes. -/
def pack : Request → Parcel
  | msg1 m => .msg1 m.sessionId m.toBytes
  | msg3 m => .msg3 m.sessionId m.toBytes

/-- A request that can come in bytes. -/
def Fits : Request → Prop
  | msg1 _ => True
  | msg3 m => m.Fits

/-- Every request that can come in bytes is read as itself. -/
theorem request_pack {request : Request} (h : request.Fits) : request.pack.request = .ok request := by
  cases request with
  | msg1 m => simp only [pack, Parcel.request, ofMsg1Bytes, Msg1.parse_toBytes, Except.map]
  | msg3 m => simp only [pack, Parcel.request, ofMsg3Bytes, Msg3.parse_toBytes h, Except.map]

end Request

/-- The answer to a request, where message 2 goes back in bytes. -/
def Answered.pack : Answered → Parcel.Answer
  | ⟨.msg1 _, result⟩ => .msg2 (result.map Msg2.toBytes)
  | ⟨.msg3 _, result⟩ => .msg4 result

namespace Server

/-! ## One parcel -/

/-- Handles a parcel while nothing else happens. -/
def deliver (settings : Settings) (authority : Authority) (server : Server) :
    Parcel → Parcel.Answer × Server
  | .msg1 id bytes =>
    let (result, server) := server.handleMsg1Bytes settings authority id bytes
    (.msg2 result, server)
  | .msg3 id bytes =>
    let (result, server) := server.handleMsg3Bytes settings authority id bytes
    (.msg4 result, server)

variable {settings : Settings} {parcel : Parcel} {request : Request}

/-- A parcel that holds no request is refused, and the server is left alone. -/
theorem deliver_of_error (authority : Authority) (s : Server) {cause : Error}
    (h : parcel.request = .error cause) :
    s.deliver settings authority parcel = (parcel.refuse cause, s) := by
  cases parcel with
  | msg1 id bytes =>
    cases hp : Msg1.parse id bytes with
    | ok m => simp [Parcel.request, Request.ofMsg1Bytes, hp, Except.map] at h
    | error e =>
      have he : e = cause := by simpa [Parcel.request, Request.ofMsg1Bytes, hp, Except.map] using h
      simp only [deliver, handleMsg1Bytes, hp, he, Parcel.refuse]
  | msg3 id bytes =>
    cases hp : Msg3.parse id bytes with
    | ok m => simp [Parcel.request, Request.ofMsg3Bytes, hp, Except.map] at h
    | error e =>
      have he : e = cause := by simpa [Parcel.request, Request.ofMsg3Bytes, hp, Except.map] using h
      simp only [deliver, handleMsg3Bytes, hp, he, Parcel.refuse]

/-- A parcel that holds a request is handled as this request. -/
theorem deliver_of_ok (authority : Authority) (s : Server) (h : parcel.request = .ok request) :
    s.deliver settings authority parcel =
      (Answered.pack ⟨request, (s.handle settings authority request).1⟩,
        (s.handle settings authority request).2) := by
  cases parcel with
  | msg1 id bytes =>
    cases hp : Msg1.parse id bytes with
    | error e => simp [Parcel.request, Request.ofMsg1Bytes, hp, Except.map] at h
    | ok m =>
      have hm : request = .msg1 m := by
        simpa [Parcel.request, Request.ofMsg1Bytes, hp, Except.map, eq_comm] using h
      subst hm
      simp only [deliver, handleMsg1Bytes, hp, Answered.pack]
  | msg3 id bytes =>
    cases hp : Msg3.parse id bytes with
    | error e => simp [Parcel.request, Request.ofMsg3Bytes, hp, Except.map] at h
    | ok m =>
      have hm : request = .msg3 m := by
        simpa [Parcel.request, Request.ofMsg3Bytes, hp, Except.map, eq_comm] using h
      subst hm
      simp only [deliver, handleMsg3Bytes, hp, Answered.pack]

/-! ## Turns in which messages come in bytes -/

/-- A turn of a server that gets its messages in bytes. -/
inductive ByteTurn
  /-- Time passes. -/
  | pass (ms : Nat)
  /-- A session is opened. -/
  | openSession
  /-- Sessions that were idle for too long are removed. -/
  | purge
  /-- A parcel is handled while nothing else happens. -/
  | deliver (parcel : Parcel) (authority : Authority)

/-- The turn in which the request comes in bytes. -/
def Turn.pack : Turn → ByteTurn
  | .pass ms => .pass ms
  | .openSession => .openSession
  | .purge => .purge
  | .handle request authority => .deliver request.pack authority

/-- The turn with the request that is in the parcel, if there is one. -/
def ByteTurn.unpack? : ByteTurn → Option Turn
  | pass ms => some (.pass ms)
  | openSession => some .openSession
  | purge => some .purge
  | deliver parcel authority =>
    match parcel.request with
    | .ok request => some (.handle request authority)
    | .error _ => none

/-- What a turn is answered with, and the server after it. -/
def byteTurn (settings : Settings) (server : Server) : ByteTurn → Reply Parcel.Answer × Server
  | .pass ms => (.passed, server.advance ms)
  | .openSession =>
    let (result, server) := server.openSession settings
    (.opened result, server)
  | .purge =>
    let (count, server) := server.purge settings
    (.purged count, server)
  | .deliver parcel authority =>
    let (answer, server) := server.deliver settings authority parcel
    (.answered answer, server)

/-- What any number of turns are answered with, and the server after them. -/
def byteTurns (settings : Settings) (server : Server) :
    List ByteTurn → List (Reply Parcel.Answer) × Server
  | [] => ([], server)
  | turn :: turns =>
    let (reply, server) := server.byteTurn settings turn
    let (replies, server) := server.byteTurns settings turns
    (reply :: replies, server)

/-- A turn whose request can come in bytes. -/
def Turn.Fits : Turn → Prop
  | .handle request _ => request.Fits
  | .pass _ | .openSession | .purge => True

/-- A turn in which the request comes in bytes is the turn with the request that is read. -/
theorem byteTurn_of_unpack? (settings : Settings) (s : Server) {turn : ByteTurn}
    {unpacked : Turn} (h : turn.unpack? = some unpacked) :
    s.byteTurn settings turn =
      ((s.reply settings unpacked).map Answered.pack, s.turn settings unpacked) := by
  cases turn with
  | pass ms => cases h; rfl
  | openSession => cases h; rfl
  | purge => cases h; rfl
  | deliver parcel authority =>
    cases hp : parcel.request with
    | error cause => simp [ByteTurn.unpack?, hp] at h
    | ok request =>
      have hu : unpacked = .handle request authority := by
        simpa [ByteTurn.unpack?, hp, eq_comm] using h
      subst hu
      simp only [byteTurn, deliver_of_ok authority s hp, reply, Reply.map, Server.turn]

/-- A turn whose parcel holds no request is refused. -/
theorem byteTurn_of_unpack?_eq_none (settings : Settings) (s : Server) {turn : ByteTurn}
    (h : turn.unpack? = none) :
    ∃ parcel authority cause, turn = .deliver parcel authority ∧ parcel.request = .error cause ∧
      s.byteTurn settings turn = (.answered (parcel.refuse cause), s) := by
  cases turn with
  | pass ms => cases h
  | openSession => cases h
  | purge => cases h
  | deliver parcel authority =>
    cases hp : parcel.request with
    | ok request => simp [ByteTurn.unpack?, hp] at h
    | error cause =>
      refine ⟨parcel, authority, cause, rfl, hp, ?_⟩
      simp only [byteTurn, deliver_of_error authority s hp]

/-- A turn whose request can come in bytes is unpacked as itself. -/
theorem Turn.unpack?_pack {turn : Turn} (h : turn.Fits) : turn.pack.unpack? = some turn := by
  cases turn with
  | pass ms => rfl
  | openSession => rfl
  | purge => rfl
  | handle request authority =>
    have hp : request.pack.request = .ok request := Request.request_pack h
    simp only [Turn.pack, ByteTurn.unpack?, hp]

/-- A run that is driven by bytes goes through the servers of the run of the messages, and gives the
same answers. -/
theorem byteTurns_pack (s : Server) {turns : List Turn} (h : ∀ turn ∈ turns, turn.Fits) :
    s.byteTurns settings (turns.map Turn.pack) =
      ((s.replies settings turns).map (Reply.map Answered.pack), s.turns settings turns) := by
  induction turns generalizing s with
  | nil => rfl
  | cons turn turns ih =>
    have hturn := byteTurn_of_unpack? settings s
      (Turn.unpack?_pack (h turn List.mem_cons_self))
    have hrest := ih (s.turn settings turn) fun other hm => h other (List.mem_cons_of_mem _ hm)
    simp only [List.map_cons, byteTurns, hturn, hrest, replies, turns_cons]

/-- Whatever bytes come, the server takes the turns of the messages that are read. -/
theorem byteTurns_snd (s : Server) (turns : List ByteTurn) :
    (s.byteTurns settings turns).2 = s.turns settings (turns.filterMap ByteTurn.unpack?) := by
  induction turns generalizing s with
  | nil => rfl
  | cons turn turns ih =>
    cases hu : turn.unpack? with
    | none =>
      obtain ⟨parcel, authority, cause, -, -, hturn⟩ :=
        byteTurn_of_unpack?_eq_none settings s hu
      rw [List.filterMap_cons_none hu]
      simp only [byteTurns, hturn]
      exact ih s
    | some unpacked =>
      rw [List.filterMap_cons_some hu, turns_cons]
      simp only [byteTurns, byteTurn_of_unpack? settings s hu]
      exact ih _

/-! ## Quotes that came in bytes -/

/-- A session calls the quote of a message 3 too short only if the message does not fit, or the
authority says so. -/
theorem quoteSize_of_process {authority : Authority} {session : Session} {tape : Tape} {m : Msg3}
    {n : Nat} (fits : m.Fits)
    (h : (session.process settings authority tape (.msg3 m)).1.result =
      .error (.invalidFormat (.quoteSize n))) :
    (authority.verdict m.quote).answer = .error (.invalidFormat (.quoteSize n)) := by
  rcases session with ⟨id, phase⟩
  cases ha : phase.accepts (.msg3 m) with
  | false =>
    have refused : (⟨id, phase⟩ : Session).process settings authority tape (.msg3 m) =
        ((⟨id, phase⟩ : Session).refuse "AwaitingMsg3", tape) :=
      Session.process_of_not_accepts settings authority tape ha
    rw [refused] at h
    cases h
  | true =>
    obtain ⟨handshake, rfl⟩ := Phase.accepts_msg3.mp ha
    have rejects := (Session.msg3_ending settings authority id handshake tape m).rejectsExactly
    rcases (rejects.format (.quoteSize n)).mp h with illegible | unjudged
    · exact absurd illegible.unreadable (fits.parse_ne n)
    · rcases unjudged.failure with ⟨-, answer⟩ | ⟨-, late⟩
      · exact answer
      · cases late

/-- No quote that came in bytes is called too short, unless the authority says so. -/
theorem quoteSize_of_handleMsg3Bytes {authority : Authority} {s : Server} {id : SessionId}
    {bs : Bytes} {n : Nat} (h : (s.handleMsg3Bytes settings authority id bs).1 =
      .error (.invalidFormat (.quoteSize n))) :
    ∃ quote, (authority.verdict quote).answer = .error (.invalidFormat (.quoteSize n)) := by
  cases hp : Msg3.parse id bs with
  | error e =>
    have he : e = .invalidFormat (.quoteSize n) := by simpa [handleMsg3Bytes, hp] using h
    -- bytes that are too few are called so, and not their quote
    unfold Msg3.parse at hp
    split at hp
    · cases hp
    · cases hp
      cases he
  | ok m =>
    obtain ⟨-, fits, -⟩ := Msg3.toBytes_of_parse hp
    have hr : (s.handle settings authority (.msg3 m)).1 = .error (.invalidFormat (.quoteSize n)) := by
      simpa [handleMsg3Bytes, hp] using h
    rw [handle_eq] at hr
    cases he : s.registry.lookup? m.sessionId with
    | none =>
      simp only [Request.sessionId, he] at hr
      cases hr
    | some e =>
      simp only [Request.sessionId, he] at hr
      cases hx : e.isExpired settings.sessionTimeout s.now with
      | true =>
        rw [Request.react_of_isExpired hx] at hr
        cases hr
      | false =>
        rw [Request.react_of_not_isExpired hx] at hr
        exact ⟨m.quote, quoteSize_of_process fits hr⟩

/-! ## Bytes and messages -/

/-- A server handles messages in bytes as it handles the messages. -/
structure ReadsBytes (settings : Settings) (s : Server) : Prop where
  /-- Bytes that are no message 1 are refused, and the server is left alone. -/
  refused1 : ∀ (authority : Authority) (id : SessionId) (bs : Bytes), bs.length ≠ 68 →
    s.handleMsg1Bytes settings authority id bs =
      (.error (.invalidFormat (.msg1Size bs.length)), s)
  /-- Bytes that are no message 3 are refused, and the server is left alone. -/
  refused3 : ∀ (authority : Authority) (id : SessionId) (bs : Bytes), bs.length < 772 →
    s.handleMsg3Bytes settings authority id bs =
      (.error (.invalidFormat (.msg3Size bs.length)), s)
  /-- Message 1 in bytes is handled as message 1, and message 2 goes back in bytes. -/
  read1 : ∀ (authority : Authority) (m : Msg1),
    s.handleMsg1Bytes settings authority m.sessionId m.toBytes =
      ((s.handle settings authority (.msg1 m)).1.map Msg2.toBytes,
        (s.handle settings authority (.msg1 m)).2)
  /-- Message 3 in bytes is handled as message 3. -/
  read3 : ∀ (authority : Authority) (m : Msg3), 436 ≤ m.quote.length →
    s.handleMsg3Bytes settings authority m.sessionId m.toBytes =
      s.handle settings authority (.msg3 m)
  /-- A whole run in bytes gives the answers of the run of the messages, and ends in its server. -/
  run : ∀ turns : List Turn, (∀ turn ∈ turns, turn.Fits) →
    s.byteTurns settings (turns.map Turn.pack) =
      ((s.replies settings turns).map (Reply.map Answered.pack), s.turns settings turns)
  /-- Whatever bytes come, the run ends as that of the messages that are read. -/
  unpacked : ∀ turns : List ByteTurn,
    (s.byteTurns settings turns).2 = s.turns settings (turns.filterMap ByteTurn.unpack?)
  /-- A message that comes in bytes while others are in flight is the same request, too. -/
  request : ∀ request : Request, request.Fits → request.pack.request = .ok request
  /-- The quote in bytes that are read as message 3 is not too short to be read. -/
  quote : ∀ (id : SessionId) (bs : Bytes) (m : Msg3) (n : Nat), Msg3.parse id bs = .ok m →
    QuoteBody.parse m.quote ≠ .error (.invalidFormat (.quoteSize n))
  /-- So no message 3 in bytes is refused for it, unless the authority says so. -/
  longEnough : ∀ (authority : Authority) (id : SessionId) (bs : Bytes) (n : Nat),
    (s.handleMsg3Bytes settings authority id bs).1 = .error (.invalidFormat (.quoteSize n)) →
    ∃ quote, (authority.verdict quote).answer = .error (.invalidFormat (.quoteSize n))

/-- Every server handles messages in bytes as it handles the messages. -/
theorem reads_bytes (settings : Settings) (s : Server) : s.ReadsBytes settings where
  refused1 := by
    intro authority id bs h
    rw [handleMsg1Bytes, Msg1.parse_of_length_ne h]
  refused3 := by
    intro authority id bs h
    rw [handleMsg3Bytes, Msg3.parse_of_length_lt h]
  read1 := by
    intro authority m
    rw [handleMsg1Bytes, Msg1.parse_toBytes]
  read3 := by
    intro authority m h
    rw [handleMsg3Bytes, Msg3.parse_toBytes h]
  run := fun _ h => s.byteTurns_pack h
  unpacked := s.byteTurns_snd
  request := fun _ => Request.request_pack
  quote := by
    intro id bs m n h
    obtain ⟨-, fits, -⟩ := Msg3.toBytes_of_parse h
    exact fits.parse_ne n
  longEnough := fun _ _ _ _ => quoteSize_of_handleMsg3Bytes

end Server

end EnclaveGate
