import EnclaveGate.Proofs.Bytes.HexText
import EnclaveGate.Proofs.Policy.Trust
import EnclaveGate.Verdict.Report

/-!
# From a report to a decision

A status keeps its text, and each known text is that of one status. So what a policy decides on the
verdict of a report can be read off the texts in the report: only five statuses are ever trusted, and
four of them only where the report names advisories that are all allowed under this very text.
-/

namespace EnclaveGate

namespace QuoteStatus

/-- A status has the text that it was read from. -/
@[simp] theorem text_ofText (s : String) : (ofText s).text = s := by
  unfold ofText
  split
  · rename_i p status text hp
    have htext : text = s := by simpa using List.find?_some hp
    rw [text_of_mem_known _ (List.mem_of_find?_eq_some hp), htext]
  · rfl

/-- A known status is read from its text. -/
theorem ofText_text {status : QuoteStatus} (h : status.isKnown = true) :
    ofText status.text = status := by
  cases status with
  | other text => cases h
  | _ => decide

theorem ofText_eq_iff {s : String} {status : QuoteStatus} (h : status.isKnown = true) :
    ofText s = status ↔ s = status.text := by
  constructor
  · rintro rfl
    exact (text_ofText s).symm
  · rintro rfl
    exact ofText_text h

/-- The texts of the statuses that can be waived. -/
def waivableTexts : List String :=
  ["GROUP_OUT_OF_DATE", "CONFIGURATION_NEEDED", "SW_HARDENING_NEEDED",
    "CONFIGURATION_AND_SW_HARDENING_NEEDED"]

theorem isWaivable_iff {status : QuoteStatus} :
    status.isWaivable = true ↔ status = groupOutOfDate ∨ status = configurationNeeded ∨
      status = swHardeningNeeded ∨ status = configurationAndSwHardeningNeeded := by
  cases status <;> simp [isWaivable]

theorem isWaivable_ofText_iff {s : String} :
    (ofText s).isWaivable = true ↔ s ∈ waivableTexts := by
  rw [isWaivable_iff, ofText_eq_iff rfl, ofText_eq_iff rfl, ofText_eq_iff rfl, ofText_eq_iff rfl]
  simp [text, waivableTexts]

end QuoteStatus

namespace Report

variable (report : Report)

/-- The advisories of a report; a report without a list of them has none. -/
def advisoryList : List String := report.advisories.getD []

/-- The details for the platform are there and are no hexadecimal text. -/
def IsMalformed : Prop := ∃ blob, report.platformInfoBlob = some blob ∧ ¬ Hex.IsText blob

/-- The report finds nothing wrong, or the policy waives every advisory of a platform that needs an
update, under exactly the status text of the report. -/
def IsWaivedBy (policy : QuotePolicy) : Prop :=
  (report.quoteStatus = "OK" ∧ report.advisoryList = []) ∨
    (report.advisoryList ≠ [] ∧ report.quoteStatus ∈ "OK" :: QuoteStatus.waivableTexts ∧
      ∀ advisory ∈ report.advisoryList, policy.Allows report.quoteStatus advisory)

/-- What becomes of a report. -/
structure Decides : Prop where
  /-- The verdict of a text from which the report is read is that of the report. -/
  delivered : ∀ body, Report.parse body = .ok report → QuoteVerdict.ofReport body = report.verdict
  /-- There is no verdict exactly where the details are malformed, whatever the other fields. -/
  fails : ∀ e, report.verdict = .error e ↔
    e = .authority "malformed platform info blob" ∧ report.IsMalformed
  /-- Else a policy accepts a quote with the verdict if it admits the quote and waives the report. -/
  accepts : ∀ verdict, report.verdict = .ok verdict → ∀ (policy : QuotePolicy) (quote : QuoteBody),
    policy.evaluate quote verdict = .ok () ↔ policy.Admits quote ∧ report.IsWaivedBy policy
  /-- Any other status is denied, whatever the policy waives. -/
  never : report.quoteStatus ∉ "OK" :: QuoteStatus.waivableTexts →
    ∀ verdict, report.verdict = .ok verdict → ∀ (policy : QuotePolicy) (quote : QuoteBody),
      ∃ denial, policy.evaluate quote verdict = .error denial
  /-- A status that can be waived is denied where no advisory is named. -/
  unnamed : report.quoteStatus ∈ QuoteStatus.waivableTexts → report.advisoryList = [] →
    ∀ verdict, report.verdict = .ok verdict → ∀ (policy : QuotePolicy) (quote : QuoteBody),
      ∃ denial, policy.evaluate quote verdict = .error denial

variable {report}

/-! ## The verdict -/

theorem verdict_error_iff (e : Error) : report.verdict = .error e ↔
    e = .authority "malformed platform info blob" ∧ report.IsMalformed := by
  unfold verdict IsMalformed
  cases hblob : report.platformInfoBlob with
  | none => simp
  | some blob =>
    simp only [Option.some.injEq, exists_eq_left']
    rw [← Hex.decode_utf8_iff]
    cases Hex.decode (Text.utf8 blob.toList) with
    | ok bytes => simp
    | error cause => simp [eq_comm]

/-- A verdict is that of the report with some details. -/
theorem verdict_ok {verdict : QuoteVerdict} (h : report.verdict = .ok verdict) :
    ∃ blob, verdict = report.verdictWith blob := by
  unfold Report.verdict at h
  split at h
  · exact ⟨none, (Except.ok.inj h).symm⟩
  · split at h
    · rename_i bytes _
      exact ⟨some bytes, (Except.ok.inj h).symm⟩
    · cases h

/-- Whether a policy is content with the verdict can be read off the report. -/
theorem isContent_verdictWith_iff (policy : QuotePolicy) (blob : Option Bytes) :
    policy.IsContent (report.verdictWith blob) ↔ report.IsWaivedBy policy := by
  have htrusted : (report.verdictWith blob).enclaveTrusted = true ↔ report.quoteStatus = "OK" := by
    rw [verdictWith, beq_iff_eq, QuoteStatus.ofText_eq_iff rfl]
    rfl
  have hstatus : (report.verdictWith blob).status = .ofText report.quoteStatus := rfl
  have hadvisories : (report.verdictWith blob).advisories = report.advisoryList := rfl
  unfold QuotePolicy.IsContent QuotePolicy.AllowsAll IsWaivedBy
  rw [htrusted, hadvisories, hstatus, QuoteStatus.isWaivable_ofText_iff, QuoteStatus.text_ofText,
    List.mem_cons, and_comm (a := report.advisoryList = [])]

/-- A policy accepts a quote with the verdict of a report if it admits the quote and waives the
report. -/
theorem evaluate_verdict_iff {verdict : QuoteVerdict} (h : report.verdict = .ok verdict)
    (policy : QuotePolicy) (quote : QuoteBody) :
    policy.evaluate quote verdict = .ok () ↔ policy.Admits quote ∧ report.IsWaivedBy policy := by
  obtain ⟨blob, rfl⟩ := verdict_ok h
  rw [QuotePolicy.evaluate_ok_iff, isContent_verdictWith_iff]

/-- What becomes of a report is decided by its four fields. -/
theorem report_decides (report : Report) : report.Decides := by
  have denied : ∀ {verdict : QuoteVerdict} {policy : QuotePolicy} {quote : QuoteBody},
      report.verdict = .ok verdict → ¬ report.IsWaivedBy policy →
      ∃ denial, policy.evaluate quote verdict = .error denial := by
    intro verdict policy quote hv hw
    exact QuotePolicy.evaluate_error_of_ne fun h => hw ((evaluate_verdict_iff hv policy quote).mp h).2
  constructor
  case delivered =>
    intro body h
    simp only [QuoteVerdict.ofReport, h]
  case fails => exact verdict_error_iff
  case accepts => exact fun verdict hv policy quote => evaluate_verdict_iff hv policy quote
  case never =>
    intro hs verdict hv policy quote
    refine denied hv ?_
    rintro (⟨hok, -⟩ | ⟨-, hmem, -⟩)
    · exact hs (hok ▸ List.mem_cons_self)
    · exact hs hmem
  case unnamed =>
    intro hs hnone verdict hv policy quote
    refine denied hv ?_
    rintro (⟨hok, -⟩ | ⟨hne, -⟩)
    · rw [hok] at hs
      exact absurd hs (by decide)
    · exact hne hnone

end Report

end EnclaveGate
