import EnclaveGate.Proofs.Session.Offer

/-!
# Failures that are not about a missing session

A processing can fail for many reasons, but none of them is that a session was not found, unless the
authority itself says so. So whoever is told that its session was not found never reached it.
-/

namespace EnclaveGate

/-- Whether the failure is that a session was not found. -/
def Error.isSessionNotFound : Error → Bool
  | sessionNotFound _ => true
  | _ => false

/-- A result other than that a session was not found. -/
def FindsSession {α : Type} (result : Except Error α) : Prop :=
  ∀ id, result ≠ .error (.sessionNotFound id)

/-- The authority knows nothing of sessions: it never fails because one was not found. Failures from
outside are of two kinds (`Error.isCollaboratorFailure`), and neither names a session. -/
structure Authority.IsUnaware (authority : Authority) : Prop where
  /-- It judges quotes without naming a session. -/
  verdict : ∀ quote, FindsSession (authority.verdict quote).answer
  /-- It names revocation lists without naming a session. -/
  revocationList : ∀ groupId, FindsSession (authority.revocationList groupId).answer

namespace FindsSession

variable {α β : Type}

theorem ok (a : α) : FindsSession (.ok a : Except Error α) := fun _ h => by cases h

/-- Any other failure is not that a session was not found. -/
theorem error {e : Error} (h : e.isSessionNotFound = false) :
    FindsSession (.error e : Except Error α) := by
  rintro id he
  cases he
  cases h

theorem of_isCollaboratorFailure {e : Error} (h : e.isCollaboratorFailure = true) :
    FindsSession (.error e : Except Error α) := by
  refine error ?_
  cases e <;> first | rfl | cases h

theorem bind {x : Except Error α} {f : α → Except Error β} (hx : FindsSession x)
    (hf : ∀ a, FindsSession (f a)) : FindsSession (x >>= f) := by
  cases x with
  | error e =>
    intro id he
    exact hx id (by cases he; rfl)
  | ok a => exact hf a

theorem map {x : Except Error α} {f : α → β} (hx : FindsSession x) : FindsSession (x.map f) := by
  cases x with
  | error e =>
    intro id he
    exact hx id (by cases he; rfl)
  | ok a => exact ok (f a)

/-! ## What sessions compute -/

theorem encodeCoordinate (natural : Bytes) : FindsSession (Wire.encodeCoordinate natural) := by
  unfold Wire.encodeCoordinate
  dsimp only
  split
  · exact ok _
  · exact error rfl

theorem encodePoint (x y : Nat) : FindsSession (Wire.encodePoint x y) := by
  unfold Wire.encodePoint
  exact bind (encodeCoordinate _) fun _ => bind (encodeCoordinate _) fun _ => ok _

theorem ofSecret (key : P256.SecretKey) : FindsSession (WireKey.ofSecret key) := by
  unfold WireKey.ofSecret
  split
  · exact (encodePoint _ _).map
  · exact error rfl

theorem decode (key : WireKey) : FindsSession key.decode := by
  unfold WireKey.decode
  dsimp only
  split
  · exact ok _
  · exact error rfl

theorem encode (signature : Ecdsa.Signature) : FindsSession (WireSignature.encode signature) := by
  unfold WireSignature.encode
  exact (encodePoint _ _).map

theorem sign (longTerm : P256.SecretKey) (gb ga : WireKey) :
    FindsSession (KeyExchange.sign longTerm gb ga) := by
  rw [KeyExchange.sign_def]
  dsimp only
  split
  · exact encode _
  · exact error rfl

theorem parse (quote : Bytes) : FindsSession (QuoteBody.parse quote) := by
  unfold QuoteBody.parse
  split
  · dsimp only
    split
    · exact ok _
    · exact error rfl
  · exact error rfl

theorem encrypt (sk : DerivedKey) (plaintext : Bytes) (tape : Tape) :
    FindsSession (EncryptedSecret.encrypt sk plaintext tape).1 := by
  unfold EncryptedSecret.encrypt
  split
  · exact error rfl
  · unfold EncryptedSecret.encryptWith
    split
    · exact ok _
    · exact error rfl

theorem within {reply : Reply α} (h : FindsSession reply.answer) (limit : Nat) :
    FindsSession (reply.within limit) := by
  unfold Reply.within
  split
  · exact h
  · exact error rfl

/-- The offer to an enclave fails for reasons of cryptography only. -/
theorem make (settings : Settings) (msg1 : Msg1) (tape : Tape) :
    FindsSession (Offer.make settings msg1 tape).1 := by
  unfold Offer.make
  split
  · rename_i e he
    intro id h
    cases h
    exact decode _ id he
  · split
    · exact error rfl
    · unfold Offer.withEphemeral KeyExchange.root
      exact bind (ofSecret _) fun _ => bind (encodeCoordinate _).map fun _ =>
        bind (sign _ _ _) fun _ => ok _

/-- Evidence is flawed for reasons of its own. -/
theorem answer_of_check {handshake : Handshake} {msg3 : Msg3} {flaw : Flaw}
    (h : handshake.check msg3 = .error flaw) : FindsSession flaw.answer := by
  cases flaw with
  | malformed cause =>
    -- only the quote is reported with its own failure, and that failure is one of its form
    unfold Handshake.check at h
    split at h
    · cases h
    · split at h
      · cases h
      · split at h
        · rename_i e he
          cases h
          intro id hid
          cases hid
          exact parse _ id he
        · unfold Handshake.checkQuote at h
          repeat' split at h
          all_goals cases h
  | mac | key | group | binding => exact ok _

/-! ## What sessions answer -/

variable {settings : Settings} {authority : Authority} {session : Session} {tape : Tape}
  {request : Request}

/-- A processing that is over at once is not over for lack of a session. -/
theorem begin_result {outcome : Outcome request.Answer}
    (h : (session.begin settings tape request).1 = .finished outcome) :
    FindsSession outcome.result := by
  cases request with
  | msg1 m =>
    simp only [Session.begin, Session.beginMsg1] at h
    split at h
    · have hmake := make settings m tape
      split at h
      · rename_i e rest he
        rw [he] at hmake
        cases h
        exact fun id hid => hmake id (by cases hid; rfl)
      · split at h
        · cases h
        · cases h
          exact ok _
    · cases h
      exact error rfl
  | msg3 m =>
    simp only [Session.begin, Session.beginMsg3] at h
    split at h
    · split at h
      · rename_i flaw hflaw
        cases h
        exact answer_of_check hflaw
      · cases h
    · cases h
      exact error rfl

/-- Nor is one that is over after the answer of an authority that knows nothing of sessions. -/
theorem finish_result (h : authority.IsUnaware) (pending : request.Pending) :
    FindsSession (session.finish settings authority tape request pending).1.result := by
  cases request with
  | msg1 m =>
    have hreply := (h.revocationList pending.handshake.groupId).within settings.authorityTimeout
    simp only [Session.finish]
    cases hr : (authority.revocationList pending.handshake.groupId).within
        settings.authorityTimeout with
    | ok sigRl => exact ok _
    | error e =>
      rw [hr] at hreply
      exact fun id hid => hreply id (by cases hid; rfl)
  | msg3 m =>
    have hreply := (h.verdict pending.msg3.quote).within settings.authorityTimeout
    simp only [Session.finish]
    cases hr : (authority.verdict pending.msg3.quote).within settings.authorityTimeout with
    | error e =>
      rw [hr] at hreply
      exact fun id hid => hreply id (by cases hid; rfl)
    | ok verdict =>
      simp only [Session.finishMsg3]
      split
      · exact ok _
      · have hencrypt := encrypt (KeyTree.derive pending.handshake.kdk .sk) settings.secret tape
        simp only [Evidence.release]
        cases hx : (EncryptedSecret.encrypt (KeyTree.derive pending.handshake.kdk .sk)
            settings.secret tape).1 with
        | error e =>
          rw [hx] at hencrypt
          exact fun id hid => hencrypt id (by cases hid; rfl)
        | ok secret => exact ok _

end FindsSession

end EnclaveGate
