import EnclaveGate.Policy

/-!
# Settings of the server

Everything that an operator decides, as one value that all sessions share. `Settings.make` lists no
enclave and sets no limit; each `with` function changes one thing. A cap on the number of sessions
is never zero, because a cap of zero is raised to one.
-/

namespace EnclaveGate

/-- The settings that all sessions share. Times are in milliseconds. -/
structure Settings where
  /-- The id of the service provider. -/
  spid : Block 16
  /-- The key that signs both ephemeral keys. -/
  longTermKey : P256.SecretKey
  /-- The kind of quote that is wanted. -/
  quoteType : QuoteType
  /-- What a quote and its verdict are measured against. -/
  policy : QuotePolicy
  /-- What a trusted enclave receives. -/
  secret : Bytes
  /-- The greatest number of sessions, if there is one. -/
  maxSessions : Option Nat
  /-- How long a session may be idle, if there is a limit. -/
  sessionTimeout : Option Nat
  /-- How long the attestation authority may take. -/
  authorityTimeout : Nat
  /-- Whether revocation lists are fetched for message 2. -/
  fetchSigRl : Bool
deriving DecidableEq

namespace Settings

/-- How long the attestation authority may take by default, in seconds. -/
def defaultAuthoritySeconds : Nat := 30

/-- The kind of quote that is wanted by default. -/
def defaultQuoteType : QuoteType := .unlinkable

/-- Settings with nothing listed and no limits. -/
def make (spid : Block 16) (longTermKey : P256.SecretKey) (secret : Bytes) : Settings where
  spid := spid
  longTermKey := longTermKey
  quoteType := defaultQuoteType
  policy := .empty
  secret := secret
  maxSessions := none
  sessionTimeout := none
  authorityTimeout := 1000 * defaultAuthoritySeconds
  fetchSigRl := false

variable (settings : Settings)

/-- The settings with another policy. -/
def mapPolicy (f : QuotePolicy → QuotePolicy) : Settings :=
  { settings with policy := f settings.policy }

/-- Lists an enclave. -/
def withMrEnclave (m : Measurement) : Settings :=
  settings.mapPolicy fun p => { p with mrEnclaves := p.mrEnclaves.insert m }

/-- Lists a signer. -/
def withMrSigner (m : Measurement) : Settings :=
  settings.mapPolicy fun p => { p with mrSigners := p.mrSigners.insert m }

/-- Sets how the two lists combine. -/
def withIdentityPolicy (rule : IdentityPolicy) : Settings :=
  settings.mapPolicy fun p => { p with identityPolicy := rule }

/-- Sets the product number that is wanted. -/
def withProdId (prodId : UInt16) : Settings := settings.mapPolicy fun p => { p with prodId }

/-- Sets the least security version. -/
def withMinIsvSvn (minIsvSvn : UInt16) : Settings :=
  settings.mapPolicy fun p => { p with minIsvSvn }

/-- Allows an advisory under a status. -/
def withAllowedAdvisory (status advisory : String) : Settings :=
  settings.mapPolicy fun p => p.allow status advisory

/-- Sets whether enclaves launched for debugging are accepted. -/
def withAllowDebug (allowDebug : Bool) : Settings :=
  settings.mapPolicy fun p => { p with allowDebug }

/-- Sets the kind of quote that is wanted. -/
def withQuoteType (quoteType : QuoteType) : Settings := { settings with quoteType }

/-- Sets the greatest number of sessions; zero is raised to one. -/
def withMaxSessions (cap : Option Nat) : Settings :=
  { settings with maxSessions := cap.map (max 1) }

/-- Sets how long a session may be idle. -/
def withSessionTimeout (sessionTimeout : Option Nat) : Settings := { settings with sessionTimeout }

/-- Sets how long the attestation authority may take. -/
def withAuthorityTimeout (authorityTimeout : Nat) : Settings := { settings with authorityTimeout }

/-- Sets whether revocation lists are fetched for message 2. -/
def withFetchSigRl (fetchSigRl : Bool) : Settings := { settings with fetchSigRl }

end Settings

end EnclaveGate
