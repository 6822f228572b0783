import EnclaveGate.SecretBox
import EnclaveGate.Wire.Key

/-!
# The messages of a handshake

The challenge opens a session. Message 1 brings the enclave's key, message 2 answers with ours,
message 3 brings the quote and message 4 answers with the verdict and, if the enclave is trusted,
with the secret. The session id belongs to the transport and is no part of any message's bytes.
-/

namespace EnclaveGate

/-- A number that names a session; zero names none. -/
abbrev SessionId := UInt64

/-- The group of a platform. -/
abbrev GroupId := Block 4

/-- An enclave measurement. -/
abbrev Measurement := Block 32

/-- Whether the quotes of one platform can be linked. -/
inductive QuoteType
  /-- Quotes of one platform cannot be linked. -/
  | unlinkable
  /-- Quotes of one platform can be linked. -/
  | linkable
deriving DecidableEq, Repr

namespace QuoteType

/-- The number of a quote type. -/
def toUInt16 : QuoteType → UInt16
  | unlinkable => 0
  | linkable => 1

/-- The quote type with a number. -/
def ofUInt16? (v : UInt16) : Option QuoteType :=
  if v = 0 then some unlinkable else if v = 1 then some linkable else none

end QuoteType

/-- The answer to the opening of a session. -/
structure Challenge where
  /-- The id of the new session. -/
  sessionId : SessionId
  /-- Fresh random bytes. -/
  challenge : Block 32
deriving DecidableEq

/-- Message 1: the enclave's ephemeral key and the group of its platform. -/
structure Msg1 where
  /-- The session that is addressed. -/
  sessionId : SessionId
  /-- The group of the platform. -/
  groupId : GroupId
  /-- The enclave's ephemeral key. -/
  ga : WireKey
deriving DecidableEq

/-- Message 2: our ephemeral key, signed and authenticated. -/
structure Msg2 where
  /-- Our ephemeral key. -/
  gb : WireKey
  /-- The id of the service provider. -/
  spid : Block 16
  /-- The kind of quote that we want. -/
  quoteType : QuoteType
  /-- The number of the key derivation. -/
  kdfId : UInt16
  /-- The signature of both keys under the long-term key. -/
  signature : WireSignature
  /-- The authentication code of the fields above. -/
  cmac : Block 16
  /-- The revocation list of the platform's group. -/
  sigRl : Bytes
deriving DecidableEq

/-- Message 3: the quote. -/
structure Msg3 where
  /-- The session that is addressed. -/
  sessionId : SessionId
  /-- The authentication code of the fields below. -/
  cmac : Block 16
  /-- The enclave's ephemeral key once more. -/
  ga : WireKey
  /-- The security properties of the platform services. -/
  psSecurityProperties : Block 256
  /-- The quote. -/
  quote : Bytes
deriving DecidableEq

/-- What the enclave is told about the verdict. -/
structure AttestationResult where
  /-- Whether the enclave is trusted. -/
  enclaveTrusted : Bool
  /-- Whether the platform services are trusted. -/
  pseTrusted : Bool
  /-- Details for a platform that needs an update. -/
  platformInfoBlob : Option Bytes
  /-- The advisories that the authority named. -/
  advisories : List String
deriving DecidableEq

/-- The result with nothing trusted and nothing told. -/
def AttestationResult.denied : AttestationResult := ⟨false, false, none, []⟩

/-- Message 4: the verdict and, for a trusted enclave, the secret. -/
structure Msg4 where
  /-- The verdict. -/
  result : AttestationResult
  /-- The secret, for a trusted enclave. -/
  encryptedSecret : Option EncryptedSecret
  /-- The authentication code of the transcript, zero where no secret is sent. -/
  finalCmac : Block 16
deriving DecidableEq

/-- A message 4 without a secret. -/
def Msg4.denial (result : AttestationResult) : Msg4 := ⟨result, none, Block.zero 16⟩

end EnclaveGate
