import EnclaveGate.KeyExchange
import EnclaveGate.Message.Codec
import EnclaveGate.Session.Basic

/-!
# Answering message 1

A key of the enclave that is a point of the curve is answered with an offer: our ephemeral key,
signed with the long-term key and authenticated with a key of the tree that both keys span. If the
settings want it, the revocation list of the group is fetched from the authority. Every failure
behind the check of the phase ends the session.
-/

namespace EnclaveGate

/-- What the key exchange yields: the handshake, and message 2 but for its revocation list. -/
structure Offer where
  /-- What is kept for message 3. -/
  handshake : Handshake
  /-- Message 2 with an empty revocation list. -/
  msg2 : Msg2
deriving DecidableEq

namespace Offer

/-- The number of the key derivation. -/
def kdfId : UInt16 := 1

/-- Message 2 before it is authenticated. -/
def draft (settings : Settings) (gb : WireKey) (signature : WireSignature) : Msg2 :=
  { gb, signature, kdfId
    spid := settings.spid
    quoteType := settings.quoteType
    cmac := Block.zero 16
    sigRl := [] }

/-- Message 2 authenticated with a key. -/
def authenticate (smk : DerivedKey) (msg2 : Msg2) : Msg2 :=
  { msg2 with cmac := smk.mac msg2.payload }

/-- The offer to an enclave with the given key, under an ephemeral key of ours. -/
def withEphemeral (settings : Settings) (msg1 : Msg1) (peer : P256.PublicKey)
    (ephemeral : P256.SecretKey) : Except Error Offer := do
  let gb ← WireKey.ofSecret ephemeral
  let kdk ← KeyExchange.root ephemeral peer
  let smk := KeyTree.derive kdk .smk
  let signature ← KeyExchange.sign settings.longTermKey gb msg1.ga
  return {
    handshake := { ga := msg1.ga, gb, groupId := msg1.groupId, kdk, smk }
    msg2 := authenticate smk (draft settings gb signature) }

/-- The offer to an enclave, under an ephemeral key drawn from the tape. Nothing is drawn for a key
that is no point of the curve. -/
def make (settings : Settings) (msg1 : Msg1) (tape : Tape) : Except Error Offer × Tape :=
  match msg1.ga.decode with
  | .error e => (.error e, tape)
  | .ok peer =>
    match P256.SecretKey.draw? tape with
    | none => (.error .randomness, tape)
    | some (ephemeral, rest) => (withEphemeral settings msg1 peer ephemeral, rest)

end Offer

namespace Session

/-- Message 1 is refused and the session ends. -/
def refuseKey {α : Type} (session : Session) (e : Error) : Outcome α :=
  ⟨session.moveTo .failed, .error e, [.keyRefused session.id e]⟩

/-- Message 1 is answered with an offer. -/
def accept (session : Session) (offer : Offer) (sigRl : Bytes) : Outcome Msg2 :=
  ⟨session.moveTo (.awaitingMsg3 offer.handshake), .ok { offer.msg2 with sigRl },
    [.keyAccepted session.id]⟩

/-- Processes message 1 up to the question for the revocation list, if there is one. -/
def beginMsg1 (settings : Settings) (session : Session) (msg1 : Msg1) (tape : Tape) :
    Stage Msg2 Offer × Tape :=
  match session.phase with
  | .awaitingMsg1 =>
    match Offer.make settings msg1 tape with
    | (.error e, rest) => (.finished (session.refuseKey e), rest)
    | (.ok offer, rest) =>
      if settings.fetchSigRl then (.asking offer, rest)
      else (.finished (session.accept offer []), rest)
  | _ => (.finished (session.refuse "AwaitingMsg1"), tape)

/-- Processes message 1 from the answer of the authority on. -/
def finishMsg1 (session : Session) (offer : Offer) : Except Error Bytes → Outcome Msg2
  | .ok sigRl => session.accept offer sigRl
  | .error e =>
    { session.refuseKey e with events := [.listFailed session.id e, .keyRefused session.id e] }

end Session

end EnclaveGate
