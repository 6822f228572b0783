import EnclaveGate.Message.Codec
import EnclaveGate.Quote.Binding
import EnclaveGate.SecretBox
import EnclaveGate.Session.Basic

/-!
# Answering message 3

The evidence in message 3 must be authentic, bring the same key as message 1, and hold a quote of
the same group that is bound to the key exchange. Then the authority judges the quote and the policy
decides. Only a trusted enclave receives the secret, encrypted for it alone. Whatever comes of it,
the session is over.
-/

namespace EnclaveGate

/-- Why evidence is not worth asking the authority about. -/
inductive Flaw
  /-- The authentication code is wrong. -/
  | mac
  /-- The key is not that of message 1. -/
  | key
  /-- The quote cannot be read. -/
  | malformed (cause : Error)
  /-- The group is not that of message 1. -/
  | group
  /-- The quote is not bound to the key exchange. -/
  | binding
deriving DecidableEq

namespace Flaw

/-- The answer to flawed evidence: a quote that cannot be read is an error, all else is denied. -/
def answer : Flaw → Except Error Msg4
  | malformed cause => .error cause
  | mac | key | group | binding => .ok (.denial .denied)

/-- What flawed evidence leaves in the journal. -/
def events (id : SessionId) : Flaw → List Event
  | mac => [.macMismatch id]
  | key => [.keyMismatch id]
  | malformed _ => []
  | group => [.groupMismatch id]
  | binding => [.bindingMismatch id]

end Flaw

namespace Handshake

/-- The digest to which a quote must be bound. -/
def binding (handshake : Handshake) : Block 32 :=
  keyExchangeBinding handshake.ga handshake.gb (KeyTree.derive handshake.kdk .vk)

/-- The quote in message 3, if it belongs to the handshake. -/
def checkQuote (handshake : Handshake) (quote : QuoteBody) : Except Flaw QuoteBody :=
  if quote.groupId ≠ handshake.groupId then .error .group
  else if !quote.isBoundTo handshake.binding then .error .binding
  else .ok quote

/-- The quote in message 3, if nothing is wrong with the message. -/
def check (handshake : Handshake) (msg3 : Msg3) : Except Flaw QuoteBody :=
  if !handshake.smk.verify msg3.macRegion msg3.cmac.toList then .error .mac
  else if msg3.ga ≠ handshake.ga then .error .key
  else
    match QuoteBody.parse msg3.quote with
    | .error e => .error (.malformed e)
    | .ok quote => handshake.checkQuote quote

end Handshake

/-- Evidence that passed all local checks. -/
structure Evidence where
  /-- What message 1 settled. -/
  handshake : Handshake
  /-- The message with the evidence. -/
  msg3 : Msg3
  /-- The fields of its quote. -/
  quote : QuoteBody
deriving DecidableEq

namespace Evidence

/-- What a trusted enclave is told about a verdict. -/
def trustedResult (verdict : QuoteVerdict) : AttestationResult :=
  ⟨true, verdict.pseTrusted, verdict.platformInfoBlob, verdict.advisories⟩

/-- What an enclave is told about a verdict with which the policy does not trust it. -/
def deniedResult (verdict : QuoteVerdict) : AttestationResult :=
  ⟨false, false, verdict.platformInfoBlob, verdict.advisories⟩

/-- Message 4 with an encrypted secret. -/
def msg4 (evidence : Evidence) (result : AttestationResult) (secret : EncryptedSecret) : Msg4 :=
  let h := evidence.handshake
  let transcript := Msg4.transcript h.ga h.gb evidence.msg3.cmac result.enclaveTrusted
    result.pseTrusted secret
  ⟨result, some secret, (KeyTree.derive h.kdk .mk).mac transcript⟩

/-- Message 4 with the secret, encrypted under a vector drawn from the tape. -/
def release (evidence : Evidence) (secret : Bytes) (result : AttestationResult) (tape : Tape) :
    Except Error Msg4 × Tape :=
  let (encrypted, rest) :=
    EncryptedSecret.encrypt (KeyTree.derive evidence.handshake.kdk .sk) secret tape
  (encrypted.map (evidence.msg4 result), rest)

end Evidence

namespace Session

/-- The session ends without trust. -/
def endWith (session : Session) (result : Except Error Msg4) (events : List Event) : Outcome Msg4 :=
  ⟨session.moveTo .failed, result, events⟩

/-- The session ends with the secret, unless it could not be encrypted. -/
def establish (session : Session) (status : QuoteStatus) : Except Error Msg4 → Outcome Msg4
  | .ok msg4 =>
    ⟨session.moveTo .established, .ok msg4,
      [.verdictReceived session.id status.text, .secretReleased session.id]⟩
  | .error e => session.endWith (.error e) [.verdictReceived session.id status.text]

/-- Processes message 3 up to the question about the quote, if it comes to that. -/
def beginMsg3 (session : Session) (msg3 : Msg3) : Stage Msg4 Evidence :=
  match session.phase with
  | .awaitingMsg3 handshake =>
    match handshake.check msg3 with
    | .error flaw => .finished (session.endWith flaw.answer (flaw.events session.id))
    | .ok quote => .asking ⟨handshake, msg3, quote⟩
  | _ => .finished (session.refuse "AwaitingMsg3")

/-- Processes message 3 from the answer of the authority on. -/
def finishMsg3 (settings : Settings) (session : Session) (evidence : Evidence) (tape : Tape) :
    Except Error QuoteVerdict → Outcome Msg4 × Tape
  | .error e => (session.endWith (.error e) [.verificationFailed session.id e], tape)
  | .ok verdict =>
    match settings.policy.evaluate evidence.quote verdict with
    | .error denial =>
      (session.endWith (.ok (.denial (Evidence.deniedResult verdict)))
        [.verdictReceived session.id verdict.status.text, .untrusted session.id denial], tape)
    | .ok () =>
      let (answer, rest) := evidence.release settings.secret (Evidence.trustedResult verdict) tape
      (session.establish verdict.status answer, rest)

end Session

end EnclaveGate
