import EnclaveGate.Proofs.Policy.Trust
import EnclaveGate.Proofs.Traffic.Release
import EnclaveGate.Proofs.Verdict.Decision

/-!
# Verdicts that condemn an enclave

A status that is neither good nor one that can be waived condemns the enclave. Verdicts that are read
from reports or made from such a status are denied by every policy. An authority may however return
any verdict, and one that condemns an enclave by its status and trusts it by its flag is accepted,
because the flag is asked first.
-/

namespace EnclaveGate

/-- The status is neither good nor one that can be waived. -/
def QuoteStatus.Condemns (status : QuoteStatus) : Prop :=
  status ≠ .ok ∧ status.isWaivable = false

instance (status : QuoteStatus) : Decidable status.Condemns :=
  inferInstanceAs (Decidable (status ≠ .ok ∧ status.isWaivable = false))

theorem QuoteStatus.condemns_iff {status : QuoteStatus} :
    status.Condemns ↔ status = signatureInvalid ∨ status = groupRevoked ∨
      status = signatureRevoked ∨ status = keyRevoked ∨ status = sigRlVersionMismatch ∨
      ∃ text, status = other text := by
  cases status <;> simp [Condemns, isWaivable]

section Policy

variable {policy : QuotePolicy} {quote : QuoteBody} {verdict : QuoteVerdict}

/-- Whoever is condemned by the status can only be trusted by the flag. -/
theorem QuotePolicy.isContent_iff_of_condemns (h : verdict.status.Condemns) :
    policy.IsContent verdict ↔ verdict.enclaveTrusted = true ∧ policy.AllowsAll verdict := by
  obtain ⟨-, hwaive⟩ := h
  simp only [IsContent, hwaive, Bool.false_eq_true, or_false]
  constructor
  · rintro (⟨hnil, ht⟩ | ⟨-, ht, hall⟩)
    · refine ⟨ht, fun advisory ha => ?_⟩
      rw [hnil] at ha
      cases ha
    · exact ⟨ht, hall⟩
  · rintro ⟨ht, hall⟩
    by_cases hnil : verdict.advisories = []
    · exact Or.inl ⟨hnil, ht⟩
    · exact Or.inr ⟨hnil, ht, hall⟩

theorem QuotePolicy.denied_of_condemns (h : verdict.status.Condemns)
    (hflag : verdict.enclaveTrusted = false) :
    ∃ denial, policy.evaluate quote verdict = .error denial := by
  refine evaluate_error_of_ne fun hok => ?_
  have hcontent := (evaluate_ok_iff.mp hok).2
  have htrust := ((isContent_iff_of_condemns h).mp hcontent).1
  rw [hflag] at htrust
  cases htrust

/-- A verdict of a report trusts the enclave by its flag only if the status is good. -/
theorem Report.enclaveTrusted_of_condemns {report : Report} (hv : report.verdict = .ok verdict)
    (h : verdict.status.Condemns) : verdict.enclaveTrusted = false := by
  obtain ⟨blob, rfl⟩ := Report.verdict_ok hv
  exact beq_eq_false_iff_ne.mpr h.1

end Policy

namespace Traffic

/-- What becomes of verdicts whose status condemns the enclave. -/
structure TrustsOnlyFlagged (settings : Settings) (tape : Tape) (actions : List Action) : Prop where
  /-- Such a verdict is accepted exactly if the policy admits the quote, the flag in the verdict
  trusts the enclave, and every advisory is allowed under the status. -/
  accepts : ∀ (policy : QuotePolicy) (quote : QuoteBody) (verdict : QuoteVerdict),
    verdict.status.Condemns →
    (policy.evaluate quote verdict = .ok () ↔
      policy.Admits quote ∧ verdict.enclaveTrusted = true ∧ policy.AllowsAll verdict)
  /-- A verdict made from such a status is denied. -/
  made : ∀ (policy : QuotePolicy) (quote : QuoteBody) (status : QuoteStatus)
    (advisories : List String), status.Condemns →
    ∃ denial, policy.evaluate quote (.withStatus status advisories) = .error denial
  /-- A verdict of a report with such a status is denied. -/
  reported : ∀ (policy : QuotePolicy) (quote : QuoteBody) (report : Report)
    (verdict : QuoteVerdict), report.verdict = .ok verdict → verdict.status.Condemns →
    ∃ denial, policy.evaluate quote verdict = .error denial
  /-- A session releases the secret on such a verdict only if the flag in it trusts the enclave and
  every advisory is allowed under the status. -/
  released : ∀ (i : Nat) (msg3 : Msg3), ((start tape).run settings actions).Released i msg3 →
    ∃ (stand : Stand (.msg3 msg3)) (visit : Visit) (handshake : Handshake) (quote : QuoteBody)
        (authority : Authority) (verdict : QuoteVerdict),
      ((start tape).run settings actions).calls[i]? = some ⟨.msg3 msg3, stand⟩ ∧
      stand.visit? = some visit ∧
      visit.Entitled settings msg3 handshake quote authority verdict ∧
      (verdict.status.Condemns →
        verdict.enclaveTrusted = true ∧ settings.policy.AllowsAll verdict)

/-- In every run, an enclave that a verdict condemns by its status is trusted only if the verdict
trusts it by its flag. -/
theorem condemned_trusted_only_flagged (settings : Settings) (tape : Tape)
    (actions : List Action) : TrustsOnlyFlagged settings tape actions := by
  constructor
  case accepts =>
    intro policy quote verdict h
    rw [QuotePolicy.evaluate_ok_iff, QuotePolicy.isContent_iff_of_condemns h]
  case made =>
    intro policy quote status advisories h
    have hflag : (QuoteVerdict.withStatus status advisories).enclaveTrusted = false :=
      beq_eq_false_iff_ne.mpr h.1
    exact QuotePolicy.denied_of_condemns h hflag
  case reported =>
    intro policy quote report verdict hv h
    exact QuotePolicy.denied_of_condemns h (Report.enclaveTrusted_of_condemns hv h)
  case released =>
    rintro i msg3 ⟨stand, visit, msg4, secret, hi, hv, hr, hs⟩
    have h := coherent_run settings tape actions
    obtain ⟨outcome, hy, ho⟩ := h.concluded i _ stand visit _ hi hv hr
    obtain ⟨handshake, quote, authority, verdict, he⟩ := hy.entitled ho hs
    refine ⟨stand, visit, handshake, quote, authority, verdict, hi, hv, he, fun hcondemns => ?_⟩
    have hcontent := (QuotePolicy.evaluate_ok_iff.mp he.trusted).2
    exact (QuotePolicy.isContent_iff_of_condemns hcondemns).mp hcontent

/-- A verdict with a status that is not known and a flag that trusts the enclave. -/
def flagged : QuoteVerdict := ⟨.other "SOMETHING_NEW", true, true, [], none⟩

/-- Not every verdict with a status that condemns the enclave is denied. -/
theorem unknown_status_trusted :
    ¬ ∀ (policy : QuotePolicy) (quote : QuoteBody) (verdict : QuoteVerdict),
      verdict.status.Condemns → ∃ denial, policy.evaluate quote verdict = .error denial := by
  intro h
  let policy : QuotePolicy := { QuotePolicy.empty with mrEnclaves := [Block.zero 32] }
  let quote : QuoteBody :=
    ⟨Block.zero 4, 0, Block.zero 32, Block.zero 32, 0, 0, Block.zero 64⟩
  have hok : policy.evaluate quote flagged = .ok () := by decide
  obtain ⟨denial, hd⟩ := h policy quote flagged (by decide)
  rw [hok] at hd
  cases hd

end Traffic

end EnclaveGate
