import EnclaveGate.Session.Request

/-!
# Who reports an event

A session reports what it makes of a message. That a session was opened, removed or completed is
reported by the server alone, so the processing of a message never claims it.
-/

namespace EnclaveGate

/-- Whether the server reports the event, and not a session. -/
def Event.isByServer : Event → Bool
  | created _ | evicted _ | expired _ | purged _ | completed .. => true
  | keyAccepted _ | keyRefused .. | listFailed .. | macMismatch _ | keyMismatch _ | groupMismatch _
  | bindingMismatch _ | verificationFailed .. | verdictReceived .. | untrusted ..
  | secretReleased _ => false

/-- Events of a session. -/
def Event.AreBySession (events : List Event) : Prop := ∀ event ∈ events, event.isByServer = false

namespace Session

variable (settings : Settings) (authority : Authority) (session : Session) (tape : Tape)

theorem events_flaw (id : SessionId) (flaw : Flaw) : Event.AreBySession (flaw.events id) := by
  cases flaw <;> simp [Flaw.events, Event.AreBySession, Event.isByServer]

/-- The beginning of a processing reports nothing for the server. -/
theorem events_begin {request : Request} {outcome : Outcome request.Answer}
    (h : (session.begin settings tape request).1 = .finished outcome) :
    Event.AreBySession outcome.events := by
  cases request with
  | msg1 m =>
    simp only [Session.begin, beginMsg1] at h
    repeat' split at h
    all_goals cases h
    all_goals simp [Event.AreBySession, Event.isByServer, refuse, refuseKey, accept]
  | msg3 m =>
    simp only [Session.begin, beginMsg3] at h
    repeat' split at h
    · cases h
      exact events_flaw session.id _
    · cases h
    · cases h
      simp [Event.AreBySession, refuse]

/-- The end of a processing reports nothing for the server. -/
theorem events_finish (request : Request) (pending : request.Pending) :
    Event.AreBySession (session.finish settings authority tape request pending).1.events := by
  cases request with
  | msg1 m =>
    simp only [Session.finish]
    cases (authority.revocationList pending.handshake.groupId).within settings.authorityTimeout <;>
      simp [finishMsg1, Event.AreBySession, Event.isByServer, accept]
  | msg3 m =>
    simp only [Session.finish, finishMsg3]
    repeat' split
    · simp [Event.AreBySession, Event.isByServer, endWith]
    · simp [Event.AreBySession, Event.isByServer, endWith]
    · unfold establish
      split <;> simp [Event.AreBySession, Event.isByServer, endWith]

end Session

end EnclaveGate
