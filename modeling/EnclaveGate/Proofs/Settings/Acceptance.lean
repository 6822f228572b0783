import EnclaveGate.Proofs.Settings.Files

/-!
# Which configurations are accepted

A configuration is accepted exactly if each of its checks holds, and one that is refused is refused
for the first check that does not hold, with an error that says why. The settings of an accepted
configuration say what was written: no number is wrapped or cut off, and hexadecimal fields are the
bytes that they spell.
-/

namespace EnclaveGate

namespace Configuration

/-- What a configuration is checked for. -/
inductive Check
  /-- The key file is not encrypted. -/
  | plainKey
  /-- The id of the service provider. -/
  | spid
  /-- The long-term key. -/
  | longTermKey
  /-- The secret. -/
  | secret
  /-- The measurements of enclaves. -/
  | mrEnclaves
  /-- The measurements of signers. -/
  | mrSigners
  /-- The quote type. -/
  | quoteType
  /-- The product number. -/
  | prodId
  /-- The security version. -/
  | prodSvn
  /-- The cap on the number of sessions. -/
  | maxSessions
  /-- The idle time. -/
  | timeout

/-- The checks in their order. -/
def Check.inOrder : List Check :=
  [.plainKey, .spid, .longTermKey, .secret, .mrEnclaves, .mrSigners, .quoteType, .prodId, .prodSvn,
    .maxSessions, .timeout]

theorem Check.mem_inOrder (check : Check) : check ∈ inOrder := by
  cases check <;> simp [inOrder]

variable (c : Configuration) (files : FileTree)

/-- A check holds. -/
def Meets : Check → Prop
  | .plainKey => c.longTermKeyEncrypted = false
  | .spid => HoldsDigits c.spid 32
  | .longTermKey => ∃ key, files.HoldsKey c.longTermKey key
  | .secret => ∃ n, HoldsDigits c.secret (2 * n)
  | .mrEnclaves => files.HoldsMeasurements c.mrEnclaves
  | .mrSigners => ∀ path, c.mrSigners = some path → files.HoldsMeasurements path
  | .quoteType => c.quoteType = 0 ∨ c.quoteType = 1
  | .prodId => 0 ≤ c.prodId ∧ c.prodId ≤ 65535
  | .prodSvn => 0 ≤ c.prodSvn ∧ c.prodSvn ≤ 65535
  | .maxSessions => c.maxSessions = -1 ∨ 0 < c.maxSessions
  | .timeout => c.timeout = -1 ∨ 0 < c.timeout ∧ 60 * c.timeout ≤ 18446744073709551615

/-- How a check fails. -/
def Fault (e : ConfigError) : Check → Prop
  | .plainKey =>
    e = .invalid "longTermKeyEncrypted" "encrypted long-term keys are not supported"
  | .spid => BlockFault 16 "spid" c.spid e
  | .longTermKey => KeyFault files c.longTermKey e
  | .secret =>
    ∃ cause, Hex.Fault (Text.utf8 (trimmed c.secret)) cause ∧ e = .hex "secret" cause
  | .mrEnclaves => DirectoryFault files c.mrEnclaves e
  | .mrSigners => ∃ path, c.mrSigners = some path ∧ DirectoryFault files path e
  | .quoteType => e = .invalid "quoteType" s!"{c.quoteType.toNat} is neither 0 nor 1"
  | .prodId => e = .invalid "prodId" s!"{c.prodId} does not fit in 16 bits"
  | .prodSvn => e = .invalid "prodSvn" s!"{c.prodSvn} does not fit in 16 bits"
  | .maxSessions => e = .invalid "maxSessions" s!"{c.maxSessions} is neither -1 nor positive"
  | .timeout => IdleFault c.timeout e

/-- What comes of the checks that remain: if all hold, there are settings, and else the first one
that does not hold is the error. -/
inductive Judged : List Check → Except ConfigError Settings → Prop
  /-- Nothing remains to be checked. -/
  | done (settings : Settings) : Judged [] (.ok settings)
  /-- The first check holds. -/
  | passed {check : Check} {rest : List Check} {x : Except ConfigError Settings}
    (h : c.Meets files check) (hx : Judged rest x) : Judged (check :: rest) x
  /-- The first check does not hold. -/
  | failed {check : Check} {rest : List Check} {e : ConfigError} (h : ¬ c.Meets files check)
    (he : c.Fault files e check) : Judged (check :: rest) (.error e)

/-- A check is the first one that does not hold. -/
def FailsFirst (check : Check) : Prop :=
  ∃ before behind, Check.inOrder = before ++ check :: behind ∧
    (∀ earlier ∈ before, c.Meets files earlier) ∧ ¬ c.Meets files check

/-- Settings say what is written in a configuration and its files. -/
structure Says (settings : Settings) : Prop where
  /-- The id of the provider is the bytes that are spelled. -/
  spid : Hex.Spells (trimmed c.spid) settings.spid.toList
  /-- The key is the one in the key file. -/
  longTermKey : files.HoldsKey c.longTermKey settings.longTermKey
  /-- The secret is the bytes that are spelled. -/
  secret : Hex.Spells (trimmed c.secret) settings.secret
  /-- The enclaves are those of the directory. -/
  mrEnclaves : ∃ entries, files.list c.mrEnclaves = .ok entries ∧
    ListsExactly entries settings.policy.mrEnclaves
  /-- The signers are those of the directory; without one there are none. -/
  mrSigners : match c.mrSigners with
    | none => settings.policy.mrSigners = []
    | some path => ∃ entries, files.list path = .ok entries ∧
      ListsExactly entries settings.policy.mrSigners
  /-- The quote type has the number that is written. -/
  quoteType : settings.quoteType.toUInt16 = c.quoteType
  /-- The product number is the one that is written. -/
  prodId : (settings.policy.prodId.toNat : Int) = c.prodId
  /-- The security version is the one that is written. -/
  minIsvSvn : (settings.policy.minIsvSvn.toNat : Int) = c.prodSvn
  /-- There is no cap for -1, and else the cap is the one that is written, which is not zero. -/
  maxSessions : (settings.maxSessions = none ↔ c.maxSessions = -1) ∧
    ∀ cap, settings.maxSessions = some cap → (cap : Int) = c.maxSessions ∧ 0 < cap
  /-- There is no limit for -1, and else a session may be idle for 60 seconds a minute. -/
  sessionTimeout : (settings.sessionTimeout = none ↔ c.timeout = -1) ∧
    ∀ ms, settings.sessionTimeout = some ms → (ms : Int) = 1000 * (60 * c.timeout)
  /-- The time of the authority is the one that is written. -/
  authorityTimeout : settings.authorityTimeout = 1000 * c.authorityTimeoutSecs.toNat
  /-- Under every status exactly the advisories that are written are allowed, each listed once. -/
  allowedAdvisories : ∀ status, match c.allowedAdvisories.lookup status with
    | none => settings.policy.allowedAdvisories.lookup status = none
    | some written => ∃ ids, settings.policy.allowedAdvisories.lookup status = some ids ∧
      ids.Nodup ∧ ∀ id, id ∈ ids ↔ id ∈ written
  /-- Everything else is taken over. -/
  others : settings.policy.identityPolicy = c.identityPolicy ∧
    settings.policy.allowDebug = c.allowDebug ∧ settings.fetchSigRl = c.fetchSigRl

/-- Exactly the right configurations are accepted. -/
structure AcceptedExactly : Prop where
  /-- A configuration is accepted if every check holds. -/
  accepted : (∃ settings, c.settings files = .ok settings) ↔ ∀ check, c.Meets files check
  /-- The error is that of the first check that does not hold. -/
  refused : ∀ e, c.settings files = .error e →
    ∃ check, c.FailsFirst files check ∧ c.Fault files e check
  /-- The settings say what is written. -/
  exact : ∀ settings, c.settings files = .ok settings → c.Says files settings

variable {c : Configuration} {files : FileTree} {check : Check} {rest : List Check}

/-! ## One check after the other -/

/-- A step that decides a check is followed by the remaining ones. -/
theorem Judged.bind {α : Type} {x : Except ConfigError α} {f : α → Except ConfigError Settings}
    {good : α → Prop} (hx : Decides x (c.Meets files check) good (c.Fault files · check))
    (hf : ∀ a, Judged c files rest (f a)) : Judged c files (check :: rest) (x >>= f) := by
  rcases hx.cases with ⟨h, a, ha, -⟩ | ⟨h, e, he, hb⟩
  · rw [ha]
    exact .passed h (hf a)
  · rw [he]
    exact .failed h hb

theorem Judged.cases {x : Except ConfigError Settings} (h : Judged c files rest x) :
    ((∃ settings, x = .ok settings) ∧ ∀ check ∈ rest, c.Meets files check) ∨
    ∃ e before check behind, x = .error e ∧ rest = before ++ check :: behind ∧
      (∀ earlier ∈ before, c.Meets files earlier) ∧ ¬ c.Meets files check ∧
      c.Fault files e check := by
  induction h with
  | done settings => exact Or.inl ⟨⟨settings, rfl⟩, by simp⟩
  | passed h _ ih =>
    rcases ih with ⟨hok, hall⟩ | ⟨e, before, check, behind, he, rfl, hbefore, hnot, hfault⟩
    · exact Or.inl ⟨hok, List.forall_mem_cons.mpr ⟨h, hall⟩⟩
    · exact Or.inr ⟨e, _ :: before, check, behind, he, rfl,
        List.forall_mem_cons.mpr ⟨h, hbefore⟩, hnot, hfault⟩
  | @failed check rest e h he =>
    exact Or.inr ⟨e, [], check, rest, rfl, rfl, by simp, h, he⟩

/-! ## All checks -/

theorem signers_decides (files : FileTree) (directory : Option String) :
    Decides (signers files directory) (∀ path, directory = some path → files.HoldsMeasurements path)
      (fun ms => match directory with
        | none => ms = []
        | some path => ∃ entries, files.list path = .ok entries ∧ ListsExactly entries ms)
      (fun e => ∃ path, directory = some path ∧ DirectoryFault files path e) := by
  cases directory with
  | none => exact .of_ok rfl (fun path h => by cases h) rfl
  | some path =>
    rcases (Measurement.ofDirectory_decides files path).cases with
      ⟨hholds, ms, hms, hlists⟩ | ⟨hnot, e, he, hfault⟩
    · refine .of_ok hms (fun other h => ?_) hlists
      cases h
      exact hholds
    · exact .of_error he (fun h => hnot (h path rfl)) ⟨path, rfl, hfault⟩

/-- The checks are made in their order. -/
theorem settings_judged (c : Configuration) (files : FileTree) :
    Judged c files Check.inOrder (c.settings files) := by
  refine .bind (requirePlainKey_decides c.longTermKeyEncrypted) fun _ => ?_
  refine .bind (blockOfText_decides 16 "spid" c.spid) fun spid => ?_
  refine .bind (longTermKeyOfFile_decides files c.longTermKey) fun key => ?_
  refine .bind (bytesOfText_decides "secret" c.secret) fun secret => ?_
  refine .bind (Measurement.ofDirectory_decides files c.mrEnclaves) fun mrEnclaves => ?_
  refine .bind (signers_decides files c.mrSigners) fun mrSigners => ?_
  refine .bind (quoteTypeOf_decides c.quoteType) fun quoteType => ?_
  refine .bind (shortNumber_decides "prodId" c.prodId) fun prodId => ?_
  refine .bind (shortNumber_decides "prodSvn" c.prodSvn) fun minIsvSvn => ?_
  refine .bind (optionalLimit_decides "maxSessions" c.maxSessions) fun maxSessions => ?_
  refine .bind (idleTime_decides c.timeout) fun sessionTimeout => ?_
  exact .done _

theorem lookup_map_snd {α β : Type} (f : α → β) (entries : List (String × α)) (status : String) :
    (entries.map fun (key, value) => (key, f value)).lookup status =
      (entries.lookup status).map f := by
  induction entries with
  | nil => rfl
  | cons entry entries ih =>
    obtain ⟨key, value⟩ := entry
    rw [List.map_cons, List.lookup_cons, List.lookup_cons, ih]
    split <;> rfl

theorem mem_foldr_insert {a : String} {l : List String} :
    a ∈ l.foldr List.insert [] ↔ a ∈ l := by
  induction l with
  | nil => simp
  | cons b l ih => rw [List.foldr_cons, List.mem_insert_iff, ih, List.mem_cons]

theorem nodup_foldr_insert (l : List String) : (l.foldr List.insert []).Nodup := by
  induction l with
  | nil => exact List.nodup_nil
  | cons b l ih => exact ih.insert

theorem says_of_settings {settings : Settings} (h : c.settings files = .ok settings) :
    c.Says files settings := by
  unfold Configuration.settings at h
  obtain ⟨-, -, h⟩ := bind_ok h
  obtain ⟨spid, hspid, h⟩ := bind_ok h
  obtain ⟨longTermKey, hkey, h⟩ := bind_ok h
  obtain ⟨secret, hsecret, h⟩ := bind_ok h
  obtain ⟨mrEnclaves, henclaves, h⟩ := bind_ok h
  obtain ⟨mrSigners, hsigners, h⟩ := bind_ok h
  obtain ⟨quoteType, hquote, h⟩ := bind_ok h
  obtain ⟨prodId, hprod, h⟩ := bind_ok h
  obtain ⟨minIsvSvn, hsvn, h⟩ := bind_ok h
  obtain ⟨maxSessions, hmax, h⟩ := bind_ok h
  obtain ⟨sessionTimeout, htimeout, h⟩ := bind_ok h
  cases h
  constructor
  case spid => exact ((blockOfText_decides 16 "spid" c.spid).ok spid hspid).2
  case longTermKey => exact ((longTermKeyOfFile_decides files c.longTermKey).ok _ hkey).2
  case secret => exact ((bytesOfText_decides "secret" c.secret).ok secret hsecret).2
  case mrEnclaves => exact ((Measurement.ofDirectory_decides files c.mrEnclaves).ok _ henclaves).2
  case mrSigners => exact ((signers_decides files c.mrSigners).ok mrSigners hsigners).2
  case quoteType => exact ((quoteTypeOf_decides c.quoteType).ok quoteType hquote).2
  case prodId => exact ((shortNumber_decides "prodId" c.prodId).ok prodId hprod).2
  case minIsvSvn => exact ((shortNumber_decides "prodSvn" c.prodSvn).ok minIsvSvn hsvn).2
  case maxSessions =>
    exact ((optionalLimit_decides "maxSessions" c.maxSessions).ok maxSessions hmax).2
  case sessionTimeout => exact ((idleTime_decides c.timeout).ok sessionTimeout htimeout).2
  case authorityTimeout => rfl
  case allowedAdvisories =>
    intro status
    dsimp only
    rw [lookup_map_snd]
    cases c.allowedAdvisories.lookup status with
    | none => rfl
    | some written => exact ⟨_, rfl, nodup_foldr_insert written, fun _ => mem_foldr_insert⟩
  case others => exact ⟨rfl, rfl, rfl⟩

/-- Exactly those configurations are accepted that meet every check, the others are refused for the
first one they do not meet, and what is accepted is taken as it was written. -/
theorem accepted_exactly (c : Configuration) (files : FileTree) : c.AcceptedExactly files := by
  rcases (settings_judged c files).cases with
    ⟨⟨settings, hok⟩, hall⟩ | ⟨e, before, check, behind, he, horder, hbefore, hnot, hfault⟩
  · constructor
    case accepted => exact iff_of_true ⟨settings, hok⟩ fun check => hall check check.mem_inOrder
    case refused =>
      intro e he
      rw [hok] at he
      cases he
    case exact => exact fun _ => says_of_settings
  · constructor
    case accepted =>
      refine iff_of_false ?_ fun h => hnot (h check)
      rintro ⟨settings, hok⟩
      rw [he] at hok
      cases hok
    case refused =>
      intro e' he'
      rw [he] at he'
      cases he'
      exact ⟨check, ⟨before, behind, horder, hbefore, hnot⟩, hfault⟩
    case exact => exact fun _ => says_of_settings

end Configuration

end EnclaveGate
