import EnclaveGate.Session.Request

/-!
# Sessions move forward

A request that a session does not accept in its phase changes nothing and is answered with the two
phases. A request that it accepts moves it one phase on: message 1 to an agreed handshake or to the
end, message 3 to the end with or without trust.
-/

namespace EnclaveGate

/-- Whether a session in the phase accepts a request. -/
def Phase.accepts : Phase → Request → Bool
  | .awaitingMsg1, .msg1 _ => true
  | .awaitingMsg3 _, .msg3 _ => true
  | _, _ => false

/-- The name of the phase in which a request is accepted. -/
def Request.expected : Request → String
  | .msg1 _ => "AwaitingMsg1"
  | .msg3 _ => "AwaitingMsg3"

/-- The moves of a session. -/
inductive Phase.Moves : Phase → Phase → Prop
  /-- Message 1 is answered. -/
  | agree (handshake : Handshake) : Moves .awaitingMsg1 (.awaitingMsg3 handshake)
  /-- Message 1 is refused. -/
  | refuse : Moves .awaitingMsg1 .failed
  /-- The secret is released. -/
  | establish (handshake : Handshake) : Moves (.awaitingMsg3 handshake) .established
  /-- Message 3 ends without trust. -/
  | deny (handshake : Handshake) : Moves (.awaitingMsg3 handshake) .failed

theorem Phase.accepts_msg1 {phase : Phase} {m : Msg1} :
    phase.accepts (.msg1 m) = true ↔ phase = .awaitingMsg1 := by
  cases phase <;> simp [Phase.accepts]

theorem Phase.accepts_msg3 {phase : Phase} {m : Msg3} :
    phase.accepts (.msg3 m) = true ↔ ∃ h, phase = .awaitingMsg3 h := by
  cases phase <;> simp [Phase.accepts]

/-- Nothing is accepted at the end. -/
theorem Phase.not_accepts_of_isTerminal {phase : Phase} (h : phase.isTerminal = true)
    (request : Request) : phase.accepts request = false := by
  cases phase <;> cases request <;> simp_all [Phase.accepts, Phase.isTerminal]

namespace Phase.Moves

variable {p q : Phase}

/-- What was accepted before a move is not accepted after it. -/
theorem not_accepts (h : p.Moves q) {request : Request} (hp : p.accepts request = true) :
    q.accepts request = false := by
  cases h <;> cases request <;> simp_all [Phase.accepts]

/-- No move leads on from the end. -/
theorem not_isTerminal (h : p.Moves q) : p.isTerminal = false := by
  cases h <;> rfl

theorem eq_awaitingMsg1 {h : Handshake} (hm : p.Moves (.awaitingMsg3 h)) : p = .awaitingMsg1 := by
  cases hm
  rfl

/-- Only an answered message 1 leads to a phase in which something is accepted. -/
theorem of_accepts (h : p.Moves q) {request : Request} (hq : q.accepts request = true) :
    p = .awaitingMsg1 ∧ ∃ m, request = .msg3 m := by
  cases h <;> cases request <;> simp_all [Phase.accepts]

end Phase.Moves

namespace Session

variable (settings : Settings) (authority : Authority) {session : Session} (tape : Tape)

/-- A request that is not accepted is answered with the phase that it expects and the phase that it
found, and neither the session nor the random bytes change. -/
theorem begin_of_not_accepts {request : Request} (h : session.phase.accepts request = false) :
    session.begin settings tape request =
      (.finished (session.refuse request.expected), tape) := by
  cases request with
  | msg1 m =>
    simp only [Session.begin, Session.beginMsg1]
    split
    · rename_i hp
      simp [hp, Phase.accepts] at h
    · rfl
  | msg3 m =>
    simp only [Session.begin, Session.beginMsg3]
    split
    · rename_i hp
      simp [hp, Phase.accepts] at h
    · rfl

/-! ## Message 1 -/

theorem beginMsg1_of_awaiting (h : session.phase = .awaitingMsg1) (m : Msg1) :
    session.beginMsg1 settings m tape =
      match Offer.make settings m tape with
      | (.error e, rest) => (.finished (session.refuseKey e), rest)
      | (.ok offer, rest) =>
        if settings.fetchSigRl then (.asking offer, rest)
        else (.finished (session.accept offer []), rest) := by
  rcases session with ⟨id, phase⟩
  cases h
  rfl

/-- Message 1 is refused, or answered with an offer at once or after the question for the list. -/
theorem beginMsg1_cases (h : session.phase = .awaitingMsg1) (m : Msg1) :
    (∃ e, (Offer.make settings m tape).1 = .error e ∧
      (session.beginMsg1 settings m tape).1 = .finished (session.refuseKey e)) ∨
    ∃ offer, (Offer.make settings m tape).1 = .ok offer ∧
      (settings.fetchSigRl = true ∧ (session.beginMsg1 settings m tape).1 = .asking offer ∨
        settings.fetchSigRl = false ∧
          (session.beginMsg1 settings m tape).1 = .finished (session.accept offer [])) := by
  rw [beginMsg1_of_awaiting settings tape h]
  rcases hm : Offer.make settings m tape with ⟨e | offer, rest⟩
  · exact Or.inl ⟨e, rfl, rfl⟩
  · refine Or.inr ⟨offer, rfl, ?_⟩
    cases hf : settings.fetchSigRl
    · exact Or.inr ⟨rfl, by simp⟩
    · exact Or.inl ⟨rfl, by simp⟩

theorem finishMsg1_cases (session : Session) (offer : Offer) (reply : Except Error Bytes) :
    (∃ sigRl, reply = .ok sigRl ∧ session.finishMsg1 offer reply = session.accept offer sigRl) ∨
    ∃ e, reply = .error e ∧ (session.finishMsg1 offer reply).session = session.moveTo .failed ∧
      (session.finishMsg1 offer reply).result = .error e := by
  cases reply with
  | ok sigRl => exact Or.inl ⟨sigRl, rfl, rfl⟩
  | error e => exact Or.inr ⟨e, rfl, rfl, rfl⟩

theorem process_msg1 (session : Session) (settings : Settings) (authority : Authority) (tape : Tape)
    (msg1 : Msg1) : session.process settings authority tape (.msg1 msg1) =
      match session.beginMsg1 settings msg1 tape with
      | (.finished outcome, rest) => (outcome, rest)
      | (.asking offer, rest) =>
        (session.finishMsg1 offer ((authority.revocationList offer.handshake.groupId).within
          settings.authorityTimeout), rest) := by
  rw [process, Session.begin]
  rcases session.beginMsg1 settings msg1 tape with ⟨outcome | offer, rest⟩ <;> rfl

/-- An accepted message 1 ends the session, or is answered with an offer whose handshake is kept. -/
theorem process_msg1_cases (h : session.phase = .awaitingMsg1) (m : Msg1) :
    (∃ e, (session.process settings authority tape (.msg1 m)).1.session = session.moveTo .failed ∧
      (session.process settings authority tape (.msg1 m)).1.result = .error e) ∨
    ∃ offer sigRl, (Offer.make settings m tape).1 = .ok offer ∧
      (session.process settings authority tape (.msg1 m)).1 = session.accept offer sigRl := by
  rw [process_msg1]
  rcases hb : session.beginMsg1 settings m tape with ⟨stage, rest⟩
  rcases beginMsg1_cases settings tape h m with
    ⟨e, -, hs⟩ | ⟨offer, ho, ⟨-, hs⟩ | ⟨-, hs⟩⟩
  · rw [hb] at hs
    subst hs
    exact Or.inl ⟨e, rfl, rfl⟩
  · rw [hb] at hs
    subst hs
    rcases session.finishMsg1_cases offer
        ((authority.revocationList offer.handshake.groupId).within settings.authorityTimeout) with
      ⟨sigRl, -, hf⟩ | ⟨e, -, hf, hr⟩
    · exact Or.inr ⟨offer, sigRl, ho, hf⟩
    · exact Or.inl ⟨e, hf, hr⟩
  · rw [hb] at hs
    subst hs
    exact Or.inr ⟨offer, [], ho, rfl⟩

/-! ## Message 3 -/

/-- Message 3 draws no random bytes before the authority has answered. -/
theorem tape_begin_msg3 (m : Msg3) : (session.begin settings tape (.msg3 m)).2 = tape := rfl

theorem beginMsg3_of_awaiting {h : Handshake} (hp : session.phase = .awaitingMsg3 h) (m : Msg3) :
    session.beginMsg3 m =
      match h.check m with
      | .error flaw => .finished (session.endWith flaw.answer (flaw.events session.id))
      | .ok quote => .asking ⟨h, m, quote⟩ := by
  rcases session with ⟨id, phase⟩
  cases hp
  rfl

/-- An accepted message 3 ends the session, and the secret is released where it is established. -/
theorem finishMsg3_cases (session : Session) (evidence : Evidence) (reply : Except Error QuoteVerdict) :
    let outcome := (session.finishMsg3 settings evidence tape reply).1
    (outcome.session = session.moveTo .established ∧
      ∃ msg4 secret, outcome.result = .ok msg4 ∧ msg4.encryptedSecret = some secret) ∨
    (outcome.session = session.moveTo .failed ∧
      ∀ msg4, outcome.result = .ok msg4 → msg4.encryptedSecret = none) := by
  cases reply with
  | error e => exact Or.inr ⟨rfl, by simp [Session.finishMsg3, Session.endWith]⟩
  | ok verdict =>
    simp only [Session.finishMsg3]
    cases he : settings.policy.evaluate evidence.quote verdict with
    | error denial =>
      refine Or.inr ⟨rfl, fun msg4 h => ?_⟩
      simp only [Session.endWith, Except.ok.injEq] at h
      rw [← h]
      rfl
    | ok _ =>
      simp only [Evidence.release]
      rcases hx : EncryptedSecret.encrypt (KeyTree.derive evidence.handshake.kdk .sk)
          settings.secret tape with ⟨e | secret, rest⟩
      · exact Or.inr ⟨rfl, by simp [Session.establish, Session.endWith, Except.map]⟩
      · exact Or.inl ⟨rfl, _, secret, rfl, rfl⟩

/-- Flawed evidence is never answered with the secret. -/
theorem encryptedSecret_of_flaw {flaw : Flaw} {msg4 : Msg4} (h : flaw.answer = .ok msg4) :
    msg4.encryptedSecret = none := by
  cases flaw <;> simp [Flaw.answer] at h <;> subst h <;> rfl

/-- An accepted message 3 ends the session, with the secret or without. -/
theorem process_msg3_cases {h : Handshake} (hp : session.phase = .awaitingMsg3 h) (m : Msg3) :
    let outcome := (session.process settings authority tape (.msg3 m)).1
    (outcome.session = session.moveTo .established ∧
      ∃ msg4 secret, outcome.result = .ok msg4 ∧ msg4.encryptedSecret = some secret) ∨
    (outcome.session = session.moveTo .failed ∧
      ∀ msg4, outcome.result = .ok msg4 → msg4.encryptedSecret = none) := by
  have hb := beginMsg3_of_awaiting hp m
  cases hc : h.check m with
  | error flaw =>
    rw [hc] at hb
    simp only [Session.process, Session.begin, hb]
    exact Or.inr ⟨rfl, fun msg4 => encryptedSecret_of_flaw⟩
  | ok quote =>
    rw [hc] at hb
    simp only [Session.process, Session.begin, hb, Session.finish]
    exact finishMsg3_cases settings _ _ _ _

/-! ## Any request -/

/-- The processing of a request that is not accepted is over at once. -/
theorem process_of_not_accepts {request : Request} (h : session.phase.accepts request = false) :
    session.process settings authority tape request =
      (session.refuse request.expected, tape) := by
  simp [Session.process, begin_of_not_accepts settings tape h]

/-- An accepted request moves its session forward. -/
theorem process_moves {request : Request} (h : session.phase.accepts request = true) :
    session.phase.Moves (session.process settings authority tape request).1.session.phase := by
  cases request with
  | msg1 m =>
    have hp := Phase.accepts_msg1.mp h
    rw [hp]
    rcases process_msg1_cases settings authority tape hp m with ⟨e, hs, -⟩ | ⟨offer, sigRl, -, ho⟩
    · rw [hs]; exact .refuse
    · rw [ho]; exact .agree _
  | msg3 m =>
    obtain ⟨hs, hp⟩ := Phase.accepts_msg3.mp h
    rw [hp]
    rcases process_msg3_cases settings authority tape hp m with ⟨he, -⟩ | ⟨hf, -⟩
    · rw [he]; exact .establish _
    · rw [hf]; exact .deny _

/-- A session whose message 1 is answered waits for message 3. -/
theorem awaitingMsg3_of_process {m : Msg1} {msg2 : Msg2}
    (h : (session.process settings authority tape (.msg1 m)).1.result = .ok msg2) :
    ∃ handshake, (session.process settings authority tape (.msg1 m)).1.session.phase =
      .awaitingMsg3 handshake := by
  cases ha : session.phase.accepts (.msg1 m) with
  | false =>
    rw [process_of_not_accepts settings authority tape ha] at h
    cases h
  | true =>
    rcases process_msg1_cases settings authority tape (Phase.accepts_msg1.mp ha) m with
      ⟨e, -, hr⟩ | ⟨offer, sigRl, -, ho⟩
    · rw [hr] at h
      cases h
    · exact ⟨offer.handshake, by rw [ho]; rfl⟩

/-- A request keeps the number of its session. -/
theorem id_process (session : Session) (request : Request) :
    (session.process settings authority tape request).1.session.id = session.id := by
  cases ha : session.phase.accepts request with
  | false => rw [process_of_not_accepts settings authority tape ha]; rfl
  | true =>
    cases request with
    | msg1 m =>
      have hp := Phase.accepts_msg1.mp ha
      rcases process_msg1_cases settings authority tape hp m with ⟨e, hs, -⟩ | ⟨offer, sigRl, -, ho⟩
      · rw [hs]; rfl
      · rw [ho]; rfl
    | msg3 m =>
      obtain ⟨hs, hp⟩ := Phase.accepts_msg3.mp ha
      rcases process_msg3_cases settings authority tape hp m with ⟨he, -⟩ | ⟨hf, -⟩
      · rw [he]; rfl
      · rw [hf]; rfl

end Session

end EnclaveGate
