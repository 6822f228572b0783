import EnclaveGate.Proofs.Policy.Trust

/-!
# Comparing policies

A policy that demands less accepts whatever a policy accepts that demands more. What two policies
list decides whether they differ, not how often or in which order they list it, and of the advisories
that they allow only those under the status of the verdict. In the same way a verdict may name its
advisories in any order and repeat them.
-/

namespace EnclaveGate

namespace IdentityPolicy

/-- A rule demands at least as much as another one. To want both measurements is the strictest rule
and to want either one the most lenient; the two rules between them cannot be compared. -/
inductive Tightens : IdentityPolicy → IdentityPolicy → Prop
  /-- A rule demands as much as itself. -/
  | refl (rule : IdentityPolicy) : Tightens rule rule
  /-- No rule demands more than to want both. -/
  | both (rule : IdentityPolicy) : Tightens enclaveAndSigner rule
  /-- No rule demands less than to want either. -/
  | either (rule : IdentityPolicy) : Tightens rule enclaveOrSigner

theorem accepts_mono {rule : IdentityPolicy} {enclave signer enclave' signer' : Bool}
    (he : enclave = true → enclave' = true) (hs : signer = true → signer' = true)
    (h : rule.accepts enclave signer = true) : rule.accepts enclave' signer' = true := by
  cases rule with
  | enclaveOrSigner =>
    simp only [accepts, Bool.or_eq_true] at h ⊢
    exact h.imp he hs
  | enclaveAndSigner =>
    simp only [accepts, Bool.and_eq_true] at h ⊢
    exact h.imp he hs
  | enclaveOnly => exact he h
  | signerOnly => exact hs h

/-- The order of the rules is that of what they accept. -/
theorem tightens_iff {rule rule' : IdentityPolicy} : rule.Tightens rule' ↔
    ∀ enclave signer, rule.accepts enclave signer = true → rule'.accepts enclave signer = true := by
  constructor
  · intro h enclave signer ha
    cases h with
    | refl => exact ha
    | both =>
      have hboth : enclave = true ∧ signer = true := by simpa [accepts] using ha
      obtain ⟨rfl, rfl⟩ := hboth
      cases rule' <;> rfl
    | either => cases rule <;> simp_all [accepts]
  · intro h
    -- a rule that wants one measurement accepts it without the other one
    have henclave := h true false
    have hsigner := h false true
    cases rule <;> cases rule' <;>
      first
      | exact .refl _
      | exact .both _
      | exact .either _
      | simp [accepts] at henclave hsigner

end IdentityPolicy

/-- Another verdict has the same status and flag and names the same advisories, in any order and any
number of times. -/
structure QuoteVerdict.NamesAlike (verdict other : QuoteVerdict) : Prop where
  /-- The status is the same. -/
  status : other.status = verdict.status
  /-- The enclave is trusted by both or by none. -/
  enclaveTrusted : other.enclaveTrusted = verdict.enclaveTrusted
  /-- The same advisories are named. -/
  advisories : ∀ advisory, advisory ∈ other.advisories ↔ advisory ∈ verdict.advisories

namespace QuotePolicy

/-- A policy demands at least as much as another one for the same product. -/
structure Tightens (policy other : QuotePolicy) : Prop where
  /-- The enclaves that are listed are also listed by the other one. -/
  mrEnclaves : ∀ m ∈ policy.mrEnclaves, m ∈ other.mrEnclaves
  /-- The signers that are listed are also listed by the other one. -/
  mrSigners : ∀ m ∈ policy.mrSigners, m ∈ other.mrSigners
  /-- The lists are combined at least as strictly. -/
  identityPolicy : policy.identityPolicy.Tightens other.identityPolicy
  /-- The product is the same. -/
  prodId : other.prodId = policy.prodId
  /-- The least security version is not lower. -/
  minIsvSvn : other.minIsvSvn ≤ policy.minIsvSvn
  /-- What is allowed under a status is also allowed by the other one. -/
  allows : ∀ status advisory, policy.Allows status advisory → other.Allows status advisory
  /-- Debugging is allowed only if the other one allows it. -/
  allowDebug : policy.allowDebug = true → other.allowDebug = true

/-- Two policies measure the fields of a quote alike: they list the same measurements and want the
same of everything else. -/
structure MeasuresAlike (policy other : QuotePolicy) : Prop where
  /-- The same enclaves are listed. -/
  mrEnclaves : ∀ m, m ∈ policy.mrEnclaves ↔ m ∈ other.mrEnclaves
  /-- The same signers are listed. -/
  mrSigners : ∀ m, m ∈ policy.mrSigners ↔ m ∈ other.mrSigners
  /-- The lists are combined in the same way. -/
  identityPolicy : policy.identityPolicy = other.identityPolicy
  /-- The product is the same. -/
  prodId : policy.prodId = other.prodId
  /-- The least security version is the same. -/
  minIsvSvn : policy.minIsvSvn = other.minIsvSvn
  /-- Debugging is allowed by both or by none. -/
  allowDebug : policy.allowDebug = other.allowDebug

/-- Another policy says in addition what is allowed under one more status. -/
structure GainsEntry (policy other : QuotePolicy) (status : String) (advisories : List String) :
    Prop where
  /-- Nothing was said about the status. -/
  fresh : policy.allowedAdvisories.lookup status = none
  /-- It has an entry now. -/
  gained : other.allowedAdvisories.lookup status = some advisories
  /-- What is said about the other statuses stays. -/
  kept : ∀ s, s ≠ status → other.allowedAdvisories.lookup s = policy.allowedAdvisories.lookup s
  /-- Nothing else is changed. -/
  rest : other = { policy with allowedAdvisories := other.allowedAdvisories }

variable {policy other : QuotePolicy} {quote : QuoteBody} {verdict : QuoteVerdict}
  {status : String} {advisories : List String}

/-! ## Policies that demand less -/

theorem Tightens.admits (h : policy.Tightens other) (ha : policy.Admits quote) :
    other.Admits quote := by
  constructor
  case identity =>
    have hid := acceptsIdentity_iff.mpr ha.identity
    rw [← acceptsIdentity_iff]
    unfold acceptsIdentity at hid ⊢
    apply IdentityPolicy.tightens_iff.mp h.identityPolicy
    refine IdentityPolicy.accepts_mono ?_ ?_ hid
    · simpa using h.mrEnclaves quote.mrEnclave
    · simpa using h.mrSigners quote.mrSigner
  case product => exact ha.product.trans h.prodId.symm
  case version => exact UInt16.le_trans h.minIsvSvn ha.version
  case debug =>
    intro hdebug
    exact h.allowDebug (ha.debug hdebug)

theorem Tightens.isContent (h : policy.Tightens other) (hc : policy.IsContent verdict) :
    other.IsContent verdict := by
  rcases hc with hnone | ⟨hne, hgood, hall⟩
  · exact Or.inl hnone
  · refine Or.inr ⟨hne, hgood, ?_⟩
    intro advisory hadvisory
    exact h.allows _ _ (hall advisory hadvisory)

/-! ## Policies and verdicts that list the same -/

theorem MeasuresAlike.checkQuote_eq (h : policy.MeasuresAlike other) :
    policy.checkQuote quote = other.checkQuote quote := by
  have henclave : policy.mrEnclaves.contains quote.mrEnclave =
      other.mrEnclaves.contains quote.mrEnclave := by
    rw [Bool.eq_iff_iff]
    simpa using h.mrEnclaves quote.mrEnclave
  have hsigner : policy.mrSigners.contains quote.mrSigner =
      other.mrSigners.contains quote.mrSigner := by
    rw [Bool.eq_iff_iff]
    simpa using h.mrSigners quote.mrSigner
  unfold checkQuote acceptsIdentity
  rw [henclave, hsigner, h.identityPolicy, h.prodId, h.minIsvSvn, h.allowDebug]

/-- Only what is allowed under the status of the verdict counts. -/
theorem checkVerdict_congr (h : ∀ advisory,
    policy.Allows verdict.status.text advisory ↔ other.Allows verdict.status.text advisory) :
    policy.checkVerdict verdict = other.checkVerdict verdict := by
  have hfind : (fun a => !(policy.allowed verdict.status.text).contains a) =
      fun a => !(other.allowed verdict.status.text).contains a := by
    funext a
    have hmem : (policy.allowed verdict.status.text).contains a =
        (other.allowed verdict.status.text).contains a := by
      rw [Bool.eq_iff_iff, List.contains_iff_mem, List.contains_iff_mem, mem_allowed_iff,
        mem_allowed_iff]
      exact h a
    rw [hmem]
  simp only [checkVerdict, hfind]

/-- Policies that list the same decide alike, down to the denial. -/
theorem evaluate_congr (hq : policy.MeasuresAlike other) (hv : ∀ advisory,
    policy.Allows verdict.status.text advisory ↔ other.Allows verdict.status.text advisory) :
    policy.evaluate quote verdict = other.evaluate quote verdict := by
  simp only [evaluate, hq.checkQuote_eq, checkVerdict_congr hv]

theorem GainsEntry.measuresAlike (h : policy.GainsEntry other status advisories) :
    policy.MeasuresAlike other := by
  rw [h.rest]
  exact ⟨fun _ => Iff.rfl, fun _ => Iff.rfl, rfl, rfl, rfl, rfl⟩

theorem GainsEntry.allows_iff (h : policy.GainsEntry other status advisories) {s : String}
    (hs : s = status → advisories = []) (advisory : String) :
    policy.Allows s advisory ↔ other.Allows s advisory := by
  unfold Allows
  by_cases heq : s = status
  · subst heq
    rw [h.fresh, h.gained, hs rfl]
    simp
  · rw [h.kept s heq]

/-- An entry that is empty or stands under another status decides nothing. -/
theorem GainsEntry.evaluate_eq (h : policy.GainsEntry other status advisories)
    (hs : verdict.status.text = status → advisories = []) :
    policy.evaluate quote verdict = other.evaluate quote verdict :=
  evaluate_congr h.measuresAlike (h.allows_iff hs)

theorem isContent_congr {named : QuoteVerdict} (h : verdict.NamesAlike named) :
    policy.IsContent named ↔ policy.IsContent verdict := by
  have hnone : named.advisories = [] ↔ verdict.advisories = [] := by
    simp only [List.eq_nil_iff_forall_not_mem, h.advisories]
  unfold IsContent AllowsAll
  simp only [h.status, h.enclaveTrusted, h.advisories, ne_eq, hnone]

/-! ## Decisions -/

variable (policy quote verdict)

/-- How a decision depends on the policy and on the advisories of the verdict. -/
structure DecidesSteadily : Prop where
  /-- What is accepted stays accepted if the policy demands less. -/
  monotone : ∀ other : QuotePolicy, policy.Tightens other →
    policy.evaluate quote verdict = .ok () → other.evaluate quote verdict = .ok ()
  /-- It does not matter in which order and how often the verdict names its advisories. -/
  unordered : ∀ named : QuoteVerdict, verdict.NamesAlike named →
    (policy.evaluate quote named = .ok () ↔ policy.evaluate quote verdict = .ok ())
  /-- An entry without advisories may be added or removed. -/
  emptyEntry : ∀ (other : QuotePolicy) (status : String),
    policy.GainsEntry other status [] ∨ other.GainsEntry policy status [] →
    other.evaluate quote verdict = policy.evaluate quote verdict
  /-- An entry under another status than that of the verdict may be added or removed. -/
  otherEntry : ∀ (other : QuotePolicy) (status : String) (advisories : List String),
    policy.GainsEntry other status advisories ∨ other.GainsEntry policy status advisories →
    status ≠ verdict.status.text → other.evaluate quote verdict = policy.evaluate quote verdict

/-- Every policy decides steadily about every quote and verdict. -/
theorem decisions_steady : policy.DecidesSteadily quote verdict := by
  constructor
  case monotone =>
    intro other htighter haccepted
    obtain ⟨hadmits, hcontent⟩ := evaluate_ok_iff.mp haccepted
    exact evaluate_ok_iff.mpr ⟨htighter.admits hadmits, htighter.isContent hcontent⟩
  case unordered =>
    intro named hnamed
    rw [evaluate_ok_iff, evaluate_ok_iff, isContent_congr hnamed]
  case emptyEntry =>
    rintro other status (hgains | hloses)
    · exact (hgains.evaluate_eq fun _ => rfl).symm
    · exact hloses.evaluate_eq fun _ => rfl
  case otherEntry =>
    rintro other status advisories (hgains | hloses) hne
    · exact (hgains.evaluate_eq fun h => absurd h.symm hne).symm
    · exact hloses.evaluate_eq fun h => absurd h.symm hne

end QuotePolicy

end EnclaveGate
