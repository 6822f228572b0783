import EnclaveGate.Proofs.Settings.Acceptance

/-!
# Settings that an operator can obtain

Settings are made in code or read from a configuration, and then changed one by one. Whatever way is
taken, a cap on the number of sessions is at least one.
-/

namespace EnclaveGate

/-- Settings that an operator can obtain. -/
inductive Settings.Obtained : Settings → Prop
  /-- Settings made in code. -/
  | make (spid : Block 16) (longTermKey : P256.SecretKey) (secret : Bytes) :
    Obtained (Settings.make spid longTermKey secret)
  /-- Settings of a configuration. -/
  | configured {c : Configuration} {files : FileTree} {settings : Settings}
    (h : c.settings files = .ok settings) : Obtained settings
  /-- Settings with one more enclave listed. -/
  | withMrEnclave {settings : Settings} (h : settings.Obtained) (m : Measurement) :
    Obtained (settings.withMrEnclave m)
  /-- Settings with one more signer listed. -/
  | withMrSigner {settings : Settings} (h : settings.Obtained) (m : Measurement) :
    Obtained (settings.withMrSigner m)
  /-- Settings with another rule for the two lists. -/
  | withIdentityPolicy {settings : Settings} (h : settings.Obtained) (rule : IdentityPolicy) :
    Obtained (settings.withIdentityPolicy rule)
  /-- Settings with another product number. -/
  | withProdId {settings : Settings} (h : settings.Obtained) (prodId : UInt16) :
    Obtained (settings.withProdId prodId)
  /-- Settings with another least security version. -/
  | withMinIsvSvn {settings : Settings} (h : settings.Obtained) (minIsvSvn : UInt16) :
    Obtained (settings.withMinIsvSvn minIsvSvn)
  /-- Settings with an advisory allowed under a status. -/
  | withAllowedAdvisory {settings : Settings} (h : settings.Obtained) (status advisory : String) :
    Obtained (settings.withAllowedAdvisory status advisory)
  /-- Settings that accept enclaves launched for debugging, or no longer do. -/
  | withAllowDebug {settings : Settings} (h : settings.Obtained) (allowDebug : Bool) :
    Obtained (settings.withAllowDebug allowDebug)
  /-- Settings with another kind of quote. -/
  | withQuoteType {settings : Settings} (h : settings.Obtained) (quoteType : QuoteType) :
    Obtained (settings.withQuoteType quoteType)
  /-- Settings with another cap on the number of sessions. -/
  | withMaxSessions {settings : Settings} (h : settings.Obtained) (cap : Option Nat) :
    Obtained (settings.withMaxSessions cap)
  /-- Settings with another limit to idle time. -/
  | withSessionTimeout {settings : Settings} (h : settings.Obtained) (timeout : Option Nat) :
    Obtained (settings.withSessionTimeout timeout)
  /-- Settings with another limit for the attestation authority. -/
  | withAuthorityTimeout {settings : Settings} (h : settings.Obtained) (timeout : Nat) :
    Obtained (settings.withAuthorityTimeout timeout)
  /-- Settings under which revocation lists are fetched, or no longer are. -/
  | withFetchSigRl {settings : Settings} (h : settings.Obtained) (fetchSigRl : Bool) :
    Obtained (settings.withFetchSigRl fetchSigRl)

/-- A cap on the number of sessions is at least one. -/
theorem Settings.Obtained.one_le_cap {settings : Settings} (h : settings.Obtained) {cap : Nat}
    (hcap : settings.maxSessions = some cap) : 1 ≤ cap := by
  induction h generalizing cap with
  | make => cases hcap
  | configured h =>
    exact ((Configuration.says_of_settings h).maxSessions.2 cap hcap).2
  | withMaxSessions h limit =>
    obtain ⟨n, -, rfl⟩ := Option.map_eq_some_iff.mp hcap
    exact Nat.le_max_left 1 n
  | _ => rename_i ih; exact ih hcap

end EnclaveGate
