import EnclaveGate.Quote.Basic
import EnclaveGate.Verdict.Basic

/-!
# Acceptance policy

A quote that the authority has judged is measured against the operator's policy: the measurements
must be listed, the product must be the right one and new enough, debugging must be allowed where it
is on, and the verdict must be good or waived. The first check that fails names the denial.
-/

namespace EnclaveGate

/-- How the lists of enclaves and signers combine. -/
inductive IdentityPolicy
  /-- One of the two measurements must be listed. -/
  | enclaveOrSigner
  /-- Both measurements must be listed. -/
  | enclaveAndSigner
  /-- The measurement of the enclave must be listed. -/
  | enclaveOnly
  /-- The measurement of the signer must be listed. -/
  | signerOnly
deriving DecidableEq, Repr

namespace IdentityPolicy

/-- Whether an enclave with measurements listed or not is accepted. -/
def accepts : IdentityPolicy → Bool → Bool → Bool
  | enclaveOrSigner, enclave, signer => enclave || signer
  | enclaveAndSigner, enclave, signer => enclave && signer
  | enclaveOnly, enclave, _ => enclave
  | signerOnly, _, signer => signer

/-- Every identity policy with its name in a configuration. -/
def named : List (IdentityPolicy × String) :=
  [(enclaveOrSigner, "enclaveOrSigner"), (enclaveAndSigner, "enclaveAndSigner"),
    (enclaveOnly, "enclaveOnly"), (signerOnly, "signerOnly")]

/-- The identity policy with a name. -/
def ofName? (name : String) : Option IdentityPolicy := (named.find? (·.2 == name)).map (·.1)

end IdentityPolicy

/-- Why a quote is not trusted. -/
inductive Denial
  /-- The measurements are not listed. -/
  | unknownIdentity
  /-- The product is another one. -/
  | productId (expected actual : UInt16)
  /-- The security version is too old. -/
  | securityVersion (minimum actual : UInt16)
  /-- The enclave was launched for debugging. -/
  | debugEnclave
  /-- The authority's status is not good enough. -/
  | quoteStatus (status : String)
  /-- An advisory is not allowed under the status. -/
  | advisory (status advisory : String)
deriving DecidableEq, Repr

/-- The text of a denial. -/
def Denial.message : Denial → String
  | unknownIdentity => "enclave identity not in the allow-list"
  | productId expected actual => s!"product id {actual.toNat} does not match {expected.toNat}"
  | securityVersion minimum actual =>
    s!"security version {actual.toNat} below minimum {minimum.toNat}"
  | debugEnclave => "debug enclave"
  | quoteStatus status => s!"quote status {status}"
  | advisory status id => s!"advisory {id} not allowed for {status}"

/-- Lists of allowed measurements and advisories, and requirements on the enclave. -/
structure QuotePolicy where
  /-- The enclaves that are listed. -/
  mrEnclaves : List Measurement
  /-- The signers that are listed. -/
  mrSigners : List Measurement
  /-- How the two lists combine. -/
  identityPolicy : IdentityPolicy
  /-- The product number that is wanted. -/
  prodId : UInt16
  /-- The least security version. -/
  minIsvSvn : UInt16
  /-- The advisories that are allowed under each status, by its text. -/
  allowedAdvisories : List (String × List String)
  /-- Whether enclaves launched for debugging are accepted. -/
  allowDebug : Bool
deriving DecidableEq

namespace QuotePolicy

/-- The policy that lists nothing. -/
def empty : QuotePolicy := ⟨[], [], .enclaveOrSigner, 0, 0, [], false⟩

/-- The advisories that are allowed under a status. -/
def allowed (policy : QuotePolicy) (status : String) : List String :=
  (policy.allowedAdvisories.lookup status).getD []

/-- The policy that also allows an advisory under a status. -/
def allow (policy : QuotePolicy) (status advisory : String) : QuotePolicy :=
  let others := policy.allowedAdvisories.filter (·.1 != status)
  { policy with
    allowedAdvisories := others ++ [(status, (policy.allowed status).insert advisory)] }

/-- Whether the measurements of a quote are listed as the policy wants it. -/
def acceptsIdentity (policy : QuotePolicy) (quote : QuoteBody) : Bool :=
  policy.identityPolicy.accepts (policy.mrEnclaves.contains quote.mrEnclave)
    (policy.mrSigners.contains quote.mrSigner)

/-- Measures the fields of a quote. -/
def checkQuote (policy : QuotePolicy) (quote : QuoteBody) : Except Denial Unit :=
  if !policy.acceptsIdentity quote then .error .unknownIdentity
  else if quote.isvProdId ≠ policy.prodId then .error (.productId policy.prodId quote.isvProdId)
  else if quote.isvSvn < policy.minIsvSvn then
    .error (.securityVersion policy.minIsvSvn quote.isvSvn)
  else if quote.isDebug && !policy.allowDebug then .error .debugEnclave
  else .ok ()

/-- Measures the verdict. A status that can be waived is waived only by naming its advisories. -/
def checkVerdict (policy : QuotePolicy) (verdict : QuoteVerdict) : Except Denial Unit :=
  let status := verdict.status.text
  if verdict.advisories.isEmpty then
    if verdict.enclaveTrusted then .ok () else .error (.quoteStatus status)
  else if !verdict.enclaveTrusted && !verdict.status.isWaivable then .error (.quoteStatus status)
  else
    match verdict.advisories.find? fun a => !(policy.allowed status).contains a with
    | some a => .error (.advisory status a)
    | none => .ok ()

/-- Decides whether the enclave behind a quote is trusted, given the authority's verdict. -/
def evaluate (policy : QuotePolicy) (quote : QuoteBody) (verdict : QuoteVerdict) :
    Except Denial Unit :=
  match policy.checkQuote quote with
  | .error denial => .error denial
  | .ok () => policy.checkVerdict verdict

end QuotePolicy

end EnclaveGate
