import EnclaveGate.Session.Request

/-!
# Which random bytes are drawn

A processing takes its random bytes from the front of the tape and never looks behind them. Where the
tape is too short for what has to be drawn, the processing fails in a way that does not depend on the
tape, and takes nothing.
-/

namespace EnclaveGate

/-- How a computation depends on the tape. -/
inductive Tape.Draws {α : Type} (f : Tape → α × Tape) (short : Tape → Prop) (tape : Tape) : Prop
  /-- It takes bytes from the front, whatever comes behind them. -/
  | taken (drawn : Bytes) (split : tape.bytes = drawn ++ (f tape).2.bytes)
    (same : ∀ more, f ⟨drawn ++ more⟩ = ((f tape).1, ⟨more⟩))
  /-- It takes nothing because the tape is too short. -/
  | failed (h : short tape) (left : (f tape).2 = tape)
    (same : ∀ other, short other → f other = ((f tape).1, other))

namespace Tape.Draws

variable {α β : Type} {f : Tape → α × Tape} {short : Tape → Prop} {tape : Tape}

/-- Nothing is drawn. -/
theorem nothing (a : α) (short : Tape → Prop) (tape : Tape) :
    Draws (fun tape => (a, tape)) short tape :=
  .taken [] rfl fun _ => rfl

/-- What is made of the result draws nothing more. -/
theorem map (h : Draws f short tape) (g : α → β) :
    Draws (fun tape => (g (f tape).1, (f tape).2)) short tape := by
  cases h with
  | taken drawn split same => exact .taken drawn split fun more => by rw [same]
  | failed h left same => exact .failed h left fun other ho => by rw [same other ho]

theorem congr {g : Tape → α × Tape} (h : Draws f short tape) (hfg : ∀ tape, g tape = f tape) :
    Draws g short tape := by
  have heq : g = f := funext hfg
  rwa [heq]

end Tape.Draws

/-! ## Single draws -/

/-- The bytes that are drawn are in front, and what is behind them is left. -/
theorem Tape.draw?_append {n : Nat} (b : Block n) (more : Bytes) :
    draw? ⟨b.toList ++ more⟩ n = some (b, ⟨more⟩) := by
  have hl : 0 + n ≤ (b.toList ++ more).length := by simp
  have hb : Bytes.slice (b.toList ++ more) 0 n hl = b := by
    apply Block.eq_of_toList_eq
    rw [Bytes.toList_slice, List.drop_zero]
    exact List.take_left' (by simp)
  rw [draw?, dif_pos hl, hb]
  simp

/-- A block is drawn, or there are too few bytes. -/
theorem Tape.draws_draw? {α : Type} (n : Nat) (a : α) (g : Block n → α) (tape : Tape) :
    Draws (fun tape => match tape.draw? n with
      | none => (a, tape)
      | some (b, rest) => (g b, rest)) (fun tape => tape.size < n) tape := by
  cases hd : tape.draw? n with
  | none =>
    refine .failed (draw?_eq_none_iff.mp hd) (by rw [hd]) fun other hs => ?_
    rw [hd, draw?_eq_none_iff.mpr hs]
  | some p =>
    obtain ⟨b, rest⟩ := p
    refine .taken b.toList (by rw [hd]; exact bytes_of_draw? hd) fun more => ?_
    rw [hd, draw?_append]

namespace P256.SecretKey

/-- A key that is drawn in so many tries is drawn from the same bytes in more tries, whatever comes
behind them. -/
theorem drawUpTo_append {tries : Nat} {tape rest : Tape} {key : SecretKey}
    (h : drawUpTo tries tape = some (key, rest)) :
    ∃ (n : Nat) (drawn : Bytes), drawn.length = 32 * n ∧ tape.bytes = drawn ++ rest.bytes ∧
      ∀ (m : Nat) (more : Bytes), n ≤ m → drawUpTo m ⟨drawn ++ more⟩ = some (key, ⟨more⟩) := by
  induction tries generalizing tape with
  | zero => cases h
  | succ tries ih =>
    rw [drawUpTo] at h
    cases hd : tape.draw? 32 with
    | none => simp [hd] at h
    | some p =>
      obtain ⟨b, behind⟩ := p
      have hbytes := Tape.bytes_of_draw? hd
      cases hk : ofNat? b.natBE with
      | some found =>
        obtain ⟨rfl, rfl⟩ : found = key ∧ behind = rest := by simpa [hd, hk] using h
        refine ⟨1, b.toList, by simp, hbytes, fun m more hm => ?_⟩
        obtain ⟨m, rfl⟩ := Nat.exists_eq_add_of_le' hm
        rw [drawUpTo, Tape.draw?_append]
        simp only [hk]
      | none =>
        have hrest : drawUpTo tries behind = some (key, rest) := by simpa [hd, hk] using h
        obtain ⟨n, drawn, hl, hsplit, hmore⟩ := ih hrest
        refine ⟨n + 1, b.toList ++ drawn, ?_, ?_, fun m more hm => ?_⟩
        · rw [List.length_append, hl, Vector.length_toList]
          omega
        · rw [hbytes, hsplit, List.append_assoc]
        · obtain ⟨m, rfl⟩ := Nat.exists_eq_add_of_le' (Nat.le_trans (Nat.le_add_left 1 n) hm)
          rw [drawUpTo, List.append_assoc, Tape.draw?_append]
          simp only [hk]
          exact hmore m more (by omega)

/-- A key is drawn, or none can be. -/
theorem draws_draw? {α : Type} (a : α) (g : SecretKey → α) (tape : Tape) :
    Tape.Draws (fun tape => match draw? tape with
      | none => (a, tape)
      | some (key, rest) => (g key, rest)) (fun tape => draw? tape = none) tape := by
  cases hd : draw? tape with
  | none =>
    refine .failed hd (by rw [hd]) fun other hs => ?_
    rw [hd, hs]
  | some p =>
    obtain ⟨key, rest⟩ := p
    obtain ⟨n, drawn, hl, hsplit, hmore⟩ := drawUpTo_append hd
    refine .taken drawn (by rw [hd]; exact hsplit) fun more => ?_
    have hn : n ≤ (Tape.mk (drawn ++ more)).size / 32 := by
      simp only [Tape.size, List.length_append, hl]
      omega
    have hdraw : draw? ⟨drawn ++ more⟩ = some (key, ⟨more⟩) := hmore _ more hn
    rw [hd, hdraw]

end P256.SecretKey

/-! ## Requests -/

/-- What a request has to draw cannot be drawn: an ephemeral key for message 1, and a vector for the
secret for message 3. -/
def Request.Short : Request → Tape → Prop
  | msg1 _, tape => P256.SecretKey.draw? tape = none
  | msg3 _, tape => tape.size < 12

/-- How long the server waits for the authority while a session processes a request. -/
def Session.wait (settings : Settings) (authority : Authority) (session : Session) (tape : Tape)
    (request : Request) : Nat :=
  match session.begin settings tape request with
  | (.finished _, _) => 0
  | (.asking pending, _) => request.wait settings authority pending

namespace Session

variable (settings : Settings) (authority : Authority) (session : Session)

theorem draws_make (m : Msg1) (tape : Tape) :
    Tape.Draws (Offer.make settings m) (Request.msg1 m).Short tape := by
  cases hp : m.ga.decode with
  | error e =>
    refine (Tape.Draws.nothing (.error e) _ tape).congr fun tape => ?_
    rw [Offer.make, hp]
  | ok peer =>
    refine (P256.SecretKey.draws_draw? (.error .randomness)
      (Offer.withEphemeral settings m peer) tape).congr fun tape => ?_
    cases hd : P256.SecretKey.draw? tape with
    | none => simp only [Offer.make, hp, hd]
    | some drawn => simp only [Offer.make, hp, hd]

/-- The beginning of message 1 draws an ephemeral key, if anything. -/
theorem draws_beginMsg1 (m : Msg1) (tape : Tape) :
    Tape.Draws (session.beginMsg1 settings m) (Request.msg1 m).Short tape := by
  rcases session with ⟨id, phase⟩
  cases phase with
  | awaitingMsg1 =>
    let stage : Except Error Offer → Stage Msg2 Offer
      | .error e => .finished (refuseKey ⟨id, .awaitingMsg1⟩ e)
      | .ok offer =>
        if settings.fetchSigRl then .asking offer
        else .finished (accept ⟨id, .awaitingMsg1⟩ offer [])
    refine ((draws_make settings m tape).map stage).congr fun tape => ?_
    simp only [beginMsg1]
    rcases Offer.make settings m tape with ⟨e | offer, rest⟩
    · rfl
    · simp only [stage]
      split <;> rfl
  | awaitingMsg3 handshake => exact .nothing _ _ tape
  | established => exact .nothing _ _ tape
  | failed => exact .nothing _ _ tape

theorem draws_encrypt (sk : DerivedKey) (plaintext : Bytes) (tape : Tape) :
    Tape.Draws (EncryptedSecret.encrypt sk plaintext) (fun tape => tape.size < 12) tape := by
  refine (Tape.draws_draw? 12 (.error .randomness)
    (fun iv => EncryptedSecret.encryptWith sk iv plaintext) tape).congr fun tape => ?_
  rw [EncryptedSecret.encrypt]
  rcases tape.draw? 12 with - | ⟨iv, rest⟩ <;> rfl

/-- The end of message 3 draws a vector for the secret, if anything. -/
theorem draws_finishMsg3 (m : Msg3) (evidence : Evidence) (reply : Except Error QuoteVerdict)
    (tape : Tape) :
    Tape.Draws (fun tape => session.finishMsg3 settings evidence tape reply)
      (Request.msg3 m).Short tape := by
  cases reply with
  | error e => exact .nothing _ _ tape
  | ok verdict =>
    cases hp : settings.policy.evaluate evidence.quote verdict with
    | error denial =>
      let outcome := session.endWith (.ok (.denial (Evidence.deniedResult verdict)))
        [.verdictReceived session.id verdict.status.text, .untrusted session.id denial]
      refine (Tape.Draws.nothing outcome _ tape).congr fun tape => ?_
      simp only [finishMsg3, hp, outcome]
    | ok _ =>
      have encrypted := draws_encrypt (KeyTree.derive evidence.handshake.kdk .sk) settings.secret tape
      refine (encrypted.map fun secret => session.establish verdict.status
        (secret.map (evidence.msg4 (Evidence.trustedResult verdict)))).congr fun tape => ?_
      simp only [finishMsg3, hp, Evidence.release]

/-- A processing, the time that it waits, and the question that is asked depend on the random bytes
that are drawn, and on none behind them. -/
theorem draws_process (request : Request) (tape : Tape) :
    Tape.Draws (fun tape =>
      (((session.process settings authority tape request).1,
        session.wait settings authority tape request, session.asks settings tape request),
        (session.process settings authority tape request).2)) request.Short tape := by
  cases request with
  | msg1 m =>
    let done : Stage Msg2 Offer → Outcome Msg2 × Nat × Option Question
      | .finished outcome => (outcome, 0, none)
      | .asking offer =>
        let reply := authority.revocationList offer.handshake.groupId
        (session.finishMsg1 offer (reply.within settings.authorityTimeout),
          reply.wait settings.authorityTimeout, some (.revocationList offer.handshake.groupId))
    refine ((draws_beginMsg1 settings session m tape).map done).congr fun tape => ?_
    simp only [process, wait, asks, Session.begin]
    rcases session.beginMsg1 settings m tape with ⟨outcome | offer, rest⟩ <;> rfl
  | msg3 m =>
    cases hb : session.beginMsg3 m with
    | finished outcome =>
      refine (Tape.Draws.nothing (outcome, 0, none) _ tape).congr fun tape => ?_
      simp only [process, wait, asks, Session.begin, hb]
    | asking evidence =>
      let reply := authority.verdict evidence.msg3.quote
      refine ((draws_finishMsg3 settings session m evidence
        (reply.within settings.authorityTimeout) tape).map fun outcome =>
          (outcome, reply.wait settings.authorityTimeout,
            some (.verdict evidence.msg3.quote))).congr fun tape => ?_
      simp only [process, wait, asks, Session.begin, hb, Session.finish, reply]
      rfl

end Session

end EnclaveGate
