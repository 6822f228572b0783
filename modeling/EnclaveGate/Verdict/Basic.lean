import EnclaveGate.Bytes.Basic

/-!
# Verdicts of the attestation authority

The authority sums up a quote in a status. Four of the statuses say that the quote is genuine but
the platform needs an update; these can be waived advisory by advisory. A status that is not known
is kept as its text.
-/

namespace EnclaveGate

/-- The status of a quote. -/
inductive QuoteStatus
  /-- Nothing is wrong. -/
  | ok
  /-- The signature of the quote is wrong. -/
  | signatureInvalid
  /-- The group was revoked. -/
  | groupRevoked
  /-- The signature was revoked. -/
  | signatureRevoked
  /-- The key was revoked. -/
  | keyRevoked
  /-- The quote was made with another revocation list. -/
  | sigRlVersionMismatch
  /-- The platform needs an update. -/
  | groupOutOfDate
  /-- The platform needs another configuration. -/
  | configurationNeeded
  /-- The enclave needs hardening. -/
  | swHardeningNeeded
  /-- The platform needs another configuration and the enclave needs hardening. -/
  | configurationAndSwHardeningNeeded
  /-- A status that is not known. -/
  | other (text : String)
deriving DecidableEq, Repr

namespace QuoteStatus

/-- The statuses that are known, with their texts. -/
def known : List (QuoteStatus × String) :=
  [(ok, "OK"), (signatureInvalid, "SIGNATURE_INVALID"), (groupRevoked, "GROUP_REVOKED"),
    (signatureRevoked, "SIGNATURE_REVOKED"), (keyRevoked, "KEY_REVOKED"),
    (sigRlVersionMismatch, "SIGRL_VERSION_MISMATCH"), (groupOutOfDate, "GROUP_OUT_OF_DATE"),
    (configurationNeeded, "CONFIGURATION_NEEDED"), (swHardeningNeeded, "SW_HARDENING_NEEDED"),
    (configurationAndSwHardeningNeeded, "CONFIGURATION_AND_SW_HARDENING_NEEDED")]

/-- The status with a text. -/
def ofText (text : String) : QuoteStatus :=
  match known.find? (·.2 == text) with
  | some (status, _) => status
  | none => other text

/-- The text of a status. -/
def text : QuoteStatus → String
  | ok => "OK"
  | signatureInvalid => "SIGNATURE_INVALID"
  | groupRevoked => "GROUP_REVOKED"
  | signatureRevoked => "SIGNATURE_REVOKED"
  | keyRevoked => "KEY_REVOKED"
  | sigRlVersionMismatch => "SIGRL_VERSION_MISMATCH"
  | groupOutOfDate => "GROUP_OUT_OF_DATE"
  | configurationNeeded => "CONFIGURATION_NEEDED"
  | swHardeningNeeded => "SW_HARDENING_NEEDED"
  | configurationAndSwHardeningNeeded => "CONFIGURATION_AND_SW_HARDENING_NEEDED"
  | other text => text

/-- Whether the status can be waived by naming its advisories. -/
def isWaivable : QuoteStatus → Bool
  | groupOutOfDate => true
  | configurationNeeded => true
  | swHardeningNeeded => true
  | configurationAndSwHardeningNeeded => true
  | _ => false

/-- Whether the status is known. -/
def isKnown : QuoteStatus → Bool
  | other _ => false
  | _ => true

/-- The list of known statuses and the texts of statuses agree. -/
theorem text_of_mem_known : ∀ p ∈ known, p.1.text = p.2 := by decide

end QuoteStatus

/-- What the authority says about a quote. -/
structure QuoteVerdict where
  /-- The status of the quote. -/
  status : QuoteStatus
  /-- Whether the authority trusts the enclave. -/
  enclaveTrusted : Bool
  /-- Whether the authority trusts the platform services. -/
  pseTrusted : Bool
  /-- Advisories that concern the platform. -/
  advisories : List String
  /-- Details for a platform that needs an update. -/
  platformInfoBlob : Option Bytes
deriving DecidableEq

namespace QuoteVerdict

/-- Everything is trusted and there are no advisories. -/
def trusted : QuoteVerdict := ⟨.ok, true, true, [], none⟩

/-- A verdict with the given status, which trusts the enclave only if nothing is wrong. -/
def withStatus (status : QuoteStatus) (advisories : List String) : QuoteVerdict :=
  ⟨status, status == .ok, false, advisories, none⟩

end QuoteVerdict

end EnclaveGate
