import EnclaveGate.Policy

/-!
# What a policy trusts

A policy accepts a quote and a verdict exactly if it admits the quote and is content with the
verdict. It is content with a verdict that trusts the enclave and names no advisories, and with one
whose advisories are all allowed under its status, if the verdict trusts the enclave or the status
can be waived.
-/

namespace EnclaveGate

namespace QuotePolicy

variable (policy : QuotePolicy) (quote : QuoteBody) (verdict : QuoteVerdict)

/-- The measurements of a quote are listed as the policy wants it. -/
def Identifies : Prop :=
  match policy.identityPolicy with
  | .enclaveOrSigner => quote.mrEnclave ∈ policy.mrEnclaves ∨ quote.mrSigner ∈ policy.mrSigners
  | .enclaveAndSigner => quote.mrEnclave ∈ policy.mrEnclaves ∧ quote.mrSigner ∈ policy.mrSigners
  | .enclaveOnly => quote.mrEnclave ∈ policy.mrEnclaves
  | .signerOnly => quote.mrSigner ∈ policy.mrSigners

/-- What the fields of a quote must be, whatever the verdict. -/
structure Admits : Prop where
  /-- The measurements are listed. -/
  identity : policy.Identifies quote
  /-- The product is the right one. -/
  product : quote.isvProdId = policy.prodId
  /-- The security version is not below the least one. -/
  version : policy.minIsvSvn ≤ quote.isvSvn
  /-- An enclave launched for debugging is allowed. -/
  debug : quote.isDebug = true → policy.allowDebug = true

/-- An advisory is listed under a status with exactly this text. -/
def Allows (status advisory : String) : Prop :=
  ∃ advisories, policy.allowedAdvisories.lookup status = some advisories ∧ advisory ∈ advisories

/-- All advisories of a verdict are allowed under its status. -/
def AllowsAll : Prop := ∀ advisory ∈ verdict.advisories, policy.Allows verdict.status.text advisory

/-- What a verdict must be, whatever the quote. -/
def IsContent : Prop :=
  (verdict.advisories = [] ∧ verdict.enclaveTrusted = true) ∨
    (verdict.advisories ≠ [] ∧
      (verdict.enclaveTrusted = true ∨ verdict.status.isWaivable = true) ∧
      policy.AllowsAll verdict)

variable {policy quote verdict}

/-! ## The quote -/

theorem acceptsIdentity_iff : policy.acceptsIdentity quote = true ↔ policy.Identifies quote := by
  unfold acceptsIdentity Identifies
  cases policy.identityPolicy <;> simp [IdentityPolicy.accepts]

theorem checkQuote_ok_iff : policy.checkQuote quote = .ok () ↔ policy.Admits quote := by
  unfold checkQuote
  constructor
  · intro h
    split at h
    · cases h
    · rename_i identity
      split at h
      · cases h
      · rename_i product
        split at h
        · cases h
        · rename_i version
          split at h
          · cases h
          · rename_i debug
            constructor
            · exact acceptsIdentity_iff.mp (by simpa using identity)
            · simpa using product
            · exact UInt16.not_lt.mp version
            · simpa using debug
  · intro h
    have identity := acceptsIdentity_iff.mpr h.identity
    have version := UInt16.not_lt.mpr h.version
    cases debug : quote.isDebug with
    | false => simp [identity, h.product, version]
    | true => simp [identity, h.product, version, h.debug debug]

/-! ## The verdict -/

theorem mem_allowed_iff {status advisory : String} :
    advisory ∈ policy.allowed status ↔ policy.Allows status advisory := by
  unfold allowed Allows
  cases policy.allowedAdvisories.lookup status <;> simp

theorem checkVerdict_ok_iff : policy.checkVerdict verdict = .ok () ↔ policy.IsContent verdict := by
  unfold checkVerdict IsContent
  dsimp only
  by_cases hnil : verdict.advisories = []
  · cases htrust : verdict.enclaveTrusted <;> simp [hnil]
  · have hempty : verdict.advisories.isEmpty = false := by simpa using hnil
    simp only [hempty, Bool.false_eq_true, if_false, hnil, false_and, false_or, ne_eq,
      not_false_eq_true, true_and]
    split
    · rename_i hbad
      simp only [Bool.and_eq_true, Bool.not_eq_true'] at hbad
      simp [hbad]
    · rename_i hgood
      have hgood' : verdict.enclaveTrusted = true ∨ verdict.status.isWaivable = true := by
        cases ht : verdict.enclaveTrusted <;> simp_all
      -- the first advisory that is not allowed is the one that is denied
      have hall : verdict.advisories.find? (fun a => !(policy.allowed verdict.status.text).contains a)
          = none ↔ policy.AllowsAll verdict := by
        simp [List.find?_eq_none, AllowsAll, mem_allowed_iff]
      rw [and_iff_right hgood', ← hall]
      split <;> simp_all

/-- A quote and a verdict are accepted if both are as they must be, and in no other case. -/
theorem evaluate_ok_iff :
    policy.evaluate quote verdict = .ok () ↔ policy.Admits quote ∧ policy.IsContent verdict := by
  rw [← checkQuote_ok_iff, ← checkVerdict_ok_iff, evaluate]
  cases policy.checkQuote quote <;> simp

/-- What is not accepted is denied. -/
theorem evaluate_error_of_ne (h : policy.evaluate quote verdict ≠ .ok ()) :
    ∃ denial, policy.evaluate quote verdict = .error denial := by
  cases he : policy.evaluate quote verdict with
  | error denial => exact ⟨denial, rfl⟩
  | ok _ => exact absurd he h

end QuotePolicy

end EnclaveGate
