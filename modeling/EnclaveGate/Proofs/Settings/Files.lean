import EnclaveGate.Proofs.Settings.Fields
import Mathlib.Data.List.Nodup

/-!
# What the files of a configuration must hold

The key file holds one private key, in an envelope or bare; its first line says which, so no file can
be taken for both. In a directory of measurements every visible regular file must hold one; the
first file in the order of the directory that does not is the one that is named. What is read is the
set of all measurements, each listed once.
-/

namespace EnclaveGate

/-! ## Keys -/

namespace Pem

theorem exists_begin_of_decode? {label : String} {text der : Bytes}
    (h : decode? label text = some der) :
    ∃ begun, fromBegin? text = some begun ∧ (beginMark ++ ascii label ++ dashes) <+: begun := by
  unfold decode? body? at h
  obtain ⟨body, hbody, -⟩ := Option.bind_eq_some_iff.mp h
  obtain ⟨begun, hbegun, hbody⟩ := Option.bind_eq_some_iff.mp hbody
  obtain ⟨behind, hbehind, -⟩ := Option.bind_eq_some_iff.mp hbody
  unfold after? at hbehind
  split at hbehind
  · rename_i hprefix
    exact ⟨begun, hbegun, List.isPrefixOf_iff_prefix.mp hprefix⟩
  · cases hbehind

/-- The first line of a document tells an envelope from a bare key. -/
theorem decode?_label {text der der' : Bytes} (h : decode? "PRIVATE KEY" text = some der)
    (h' : decode? "EC PRIVATE KEY" text = some der') : False := by
  obtain ⟨begun, hbegun, hprefix⟩ := exists_begin_of_decode? h
  obtain ⟨begun', hbegun', hprefix'⟩ := exists_begin_of_decode? h'
  rw [hbegun] at hbegun'
  cases hbegun'
  rcases List.prefix_or_prefix_of_prefix hprefix hprefix' with hp | hp
  · exact absurd hp (by decide)
  · exact absurd hp (by decide)

end Pem

/-- A text is a PEM document that holds a private key, in an envelope or bare. -/
def KeyFile.Holds (text : String) (key : P256.SecretKey) : Prop :=
  (∃ der, Pem.decode? "PRIVATE KEY" (Text.utf8 text.toList) = some der ∧
    envelopedKey? der = some key) ∨
  ∃ der, Pem.decode? "EC PRIVATE KEY" (Text.utf8 text.toList) = some der ∧ bareKey? der = some key

theorem KeyFile.parse?_eq_some_iff {text : String} {key : P256.SecretKey} :
    parse? (Text.utf8 text.toList) = some key ↔ Holds text key := by
  rw [parse?, Option.or_eq_some_iff, Option.bind_eq_some_iff, Option.bind_eq_some_iff]
  constructor
  · rintro (henveloped | ⟨-, hbare⟩)
    · exact Or.inl henveloped
    · exact Or.inr hbare
  · rintro (henveloped | ⟨der, hder, hbare⟩)
    · exact Or.inl henveloped
    · refine Or.inr ⟨?_, der, hder, hbare⟩
      rw [Option.bind_eq_none_iff]
      exact fun other hother => (Pem.decode?_label hother hder).elim

/-- A file can be read as text and holds a private key. -/
def FileTree.HoldsKey (files : FileTree) (path : String) (key : P256.SecretKey) : Prop :=
  ∃ text, files.readText path = .ok text ∧ KeyFile.Holds text key

/-- Why a file holds no private key. -/
inductive KeyFault (files : FileTree) (path : String) : ConfigError → Prop
  /-- The file cannot be read as text. -/
  | unread {cause : ReadFailure} (h : files.readText path = .error cause) :
    KeyFault files path (.read path cause)
  /-- The text holds no private key. -/
  | invalid {text : String} (h : files.readText path = .ok text)
    (none : ∀ key, ¬ KeyFile.Holds text key) : KeyFault files path .invalidKey

/-- The key in a file is read if there is one. -/
theorem longTermKeyOfFile_decides (files : FileTree) (path : String) :
    Decides (longTermKeyOfFile files path) (∃ key, files.HoldsKey path key) (files.HoldsKey path)
      (KeyFault files path) := by
  cases htext : files.readText path with
  | error cause =>
    refine .of_error (by rw [longTermKeyOfFile, htext]) ?_ (.unread htext)
    rintro ⟨key, text, hread, -⟩
    rw [htext] at hread
    cases hread
  | ok text =>
    cases hkey : KeyFile.parse? (Text.utf8 text.toList) with
    | some key =>
      have hholds : files.HoldsKey path key := ⟨text, htext, KeyFile.parse?_eq_some_iff.mp hkey⟩
      refine .of_ok ?_ ⟨key, hholds⟩ hholds
      simp only [longTermKeyOfFile, htext, hkey]
    | none =>
      have hnone : ∀ key, ¬ KeyFile.Holds text key := by
        intro key hholds
        rw [KeyFile.parse?_eq_some_iff.mpr hholds] at hkey
        cases hkey
      refine .of_error ?_ ?_ (.invalid htext hnone)
      · simp only [longTermKeyOfFile, htext, hkey]
      · rintro ⟨key, other, hread, hholds⟩
        rw [htext] at hread
        cases hread
        exact hnone key hholds

/-! ## Measurements -/

/-- A visible regular file, with what reading it yields. -/
def FileTree.Entry.Shows (entry : FileTree.Entry) (content : Except ReadFailure String) : Prop :=
  entry.kind = .file content ∧ Measurement.isHidden entry.name = false

/-- An entry is skipped, or it holds the 64 digits of a measurement. -/
def FileTree.Entry.IsGood (entry : FileTree.Entry) : Prop :=
  ∀ content, entry.Shows content → ∃ text, content = .ok text ∧ HoldsDigits text 64

/-- An entry holds a measurement. -/
def FileTree.Entry.Names (entry : FileTree.Entry) (m : Measurement) : Prop :=
  ∃ text, entry.Shows (.ok text) ∧ Hex.Spells (trimmed text) m.toList

/-- Why an entry holds no measurement. -/
inductive EntryFault (directory : String) (entry : FileTree.Entry) : ConfigError → Prop
  /-- The file cannot be read as text. -/
  | unread {cause : ReadFailure} (h : entry.Shows (.error cause)) :
    EntryFault directory entry (.read (Measurement.entryPath directory entry.name) cause)
  /-- The text is not that of a measurement. -/
  | text {text : String} {e : ConfigError} (h : entry.Shows (.ok text))
    (he : BlockFault 32 entry.name text e) : EntryFault directory entry e

/-- The first entry that is not good is the reason for a failure. -/
def EntriesFault (directory : String) (entries : List FileTree.Entry) (e : ConfigError) : Prop :=
  ∃ before entry behind, entries = before ++ entry :: behind ∧ (∀ other ∈ before, other.IsGood) ∧
    EntryFault directory entry e

/-- Why there are no measurements in a directory. -/
inductive DirectoryFault (files : FileTree) (path : String) : ConfigError → Prop
  /-- The directory cannot be listed. -/
  | unlisted {cause : ReadFailure} (h : files.list path = .error cause) :
    DirectoryFault files path (.read path cause)
  /-- A file holds no measurement. -/
  | entry {entries : List FileTree.Entry} {e : ConfigError} (h : files.list path = .ok entries)
    (he : EntriesFault path entries e) : DirectoryFault files path e

/-- A directory can be listed, and every visible regular file holds a measurement. -/
def FileTree.HoldsMeasurements (files : FileTree) (path : String) : Prop :=
  ∃ entries, files.list path = .ok entries ∧ ∀ entry ∈ entries, entry.IsGood

/-- Exactly the measurements in some entries are listed, and each once. -/
structure ListsExactly (entries : List FileTree.Entry) (ms : List Measurement) : Prop where
  /-- No measurement is listed twice. -/
  nodup : ms.Nodup
  /-- A measurement is listed if a file holds it. -/
  mem_iff : ∀ m, m ∈ ms ↔ ∃ entry ∈ entries, entry.Names m

namespace Measurement

variable {directory : String} {entry : FileTree.Entry}

theorem ofVisible?_cases (directory : String) (entry : FileTree.Entry) :
    (ofVisible? directory entry = none ∧ ∀ content, ¬ entry.Shows content) ∨
    ∃ content, entry.Shows content ∧ ofVisible? directory entry = some (match content with
      | .error cause => .error (.read (entryPath directory entry.name) cause)
      | .ok text => blockOfText 32 entry.name text) := by
  rcases entry with ⟨name, kind⟩
  cases kind with
  | special => exact Or.inl ⟨rfl, fun content h => by cases h.1⟩
  | file content =>
    cases hhidden : isHidden name with
    | true =>
      refine Or.inl ⟨by simp [ofVisible?, hhidden], fun content h => ?_⟩
      have hvisible := h.2
      simp only [hhidden] at hvisible
      cases hvisible
    | false =>
      refine Or.inr ⟨content, ⟨rfl, hhidden⟩, ?_⟩
      cases content <;> simp [ofVisible?, hhidden]

theorem shows_unique {content content' : Except ReadFailure String} (h : entry.Shows content)
    (h' : entry.Shows content') : content = content' := by
  have hkind := h.1.symm.trans h'.1
  cases hkind
  rfl

/-- An entry is skipped, names one measurement, or is at fault. -/
theorem ofVisible?_spec (directory : String) (entry : FileTree.Entry) :
    (ofVisible? directory entry = none ∧ entry.IsGood ∧ ∀ m, ¬ entry.Names m) ∨
    (∃ m, ofVisible? directory entry = some (.ok m) ∧ entry.IsGood ∧
      ∀ other, entry.Names other ↔ other = m) ∨
    ∃ e, ofVisible? directory entry = some (.error e) ∧ ¬ entry.IsGood ∧
      EntryFault directory entry e := by
  rcases ofVisible?_cases directory entry with ⟨hnone, hskip⟩ | ⟨content, hshows, hread⟩
  · refine Or.inl ⟨hnone, fun content h => absurd h (hskip content), ?_⟩
    rintro m ⟨text, h, -⟩
    exact hskip _ h
  · cases content with
    | error cause =>
      refine Or.inr (Or.inr ⟨_, hread, fun hgood => ?_, .unread hshows⟩)
      obtain ⟨text, htext, -⟩ := hgood _ hshows
      cases htext
    | ok text =>
      rcases (blockOfText_decides 32 entry.name text).cases with
        ⟨hdigits, m, hm, hspells⟩ | ⟨hdigits, e, he, hfault⟩
      · refine Or.inr (Or.inl ⟨m, hread.trans (congrArg some hm), ?_, ?_⟩)
        · intro content h
          exact ⟨text, shows_unique h hshows, hdigits⟩
        · intro other
          constructor
          · rintro ⟨text', h, hother⟩
            cases shows_unique h hshows
            have hsame := (Hex.decode_utf8_eq_ok_iff.mpr hother).symm.trans
              (Hex.decode_utf8_eq_ok_iff.mpr hspells)
            exact Block.eq_of_toList_eq (Except.ok.inj hsame)
          · rintro rfl
            exact ⟨text, hshows, hspells⟩
      · refine Or.inr (Or.inr ⟨e, hread.trans (congrArg some he), fun hgood => ?_,
          .text hshows hfault⟩)
        obtain ⟨text', htext, hdigits'⟩ := hgood _ hshows
        cases htext
        exact hdigits hdigits'

/-- The entries are read one after the other up to the first one at fault. -/
theorem ofEntries_decides (directory : String) (entries : List FileTree.Entry) :
    Decides (ofEntries directory entries) (∀ entry ∈ entries, entry.IsGood) (ListsExactly entries)
      (EntriesFault directory entries) := by
  induction entries with
  | nil => exact .of_ok rfl (by simp) ⟨List.nodup_nil, by simp⟩
  | cons entry rest ih =>
    -- a fault in the rest is the first one only if this entry is good
    have later : ∀ e, entry.IsGood → EntriesFault directory rest e →
        EntriesFault directory (entry :: rest) e := by
      rintro e hgood ⟨before, other, behind, rfl, hbefore, hfault⟩
      exact ⟨entry :: before, other, behind, rfl,
        List.forall_mem_cons.mpr ⟨hgood, hbefore⟩, hfault⟩
    rcases ofVisible?_spec directory entry with
      ⟨hread, hgood, hnames⟩ | ⟨m, hread, hgood, hnames⟩ | ⟨e, hread, hgood, hfault⟩
    · have hx : ofEntries directory (entry :: rest) = ofEntries directory rest := by
        simp only [ofEntries, hread]
      rcases ih.cases with ⟨hall, ms, hms, hlists⟩ | ⟨hnot, e, he, hfault⟩
      · refine .of_ok (hx.trans hms) (List.forall_mem_cons.mpr ⟨hgood, hall⟩) ⟨hlists.nodup, ?_⟩
        intro m
        rw [hlists.mem_iff, List.exists_mem_cons_iff]
        exact (or_iff_right (hnames m)).symm
      · exact .of_error (hx.trans he) (fun h => hnot (List.forall_mem_cons.mp h).2)
          (later e hgood hfault)
    · have hx : ofEntries directory (entry :: rest) =
          (ofEntries directory rest).map (·.insert m) := by
        simp only [ofEntries, hread]
      rcases ih.cases with ⟨hall, ms, hms, hlists⟩ | ⟨hnot, e, he, hfault⟩
      · refine .of_ok (hx.trans (by rw [hms]; rfl)) (List.forall_mem_cons.mpr ⟨hgood, hall⟩) ?_
        refine ⟨List.Nodup.insert hlists.nodup, fun other => ?_⟩
        rw [List.mem_insert_iff, hlists.mem_iff, List.exists_mem_cons_iff, hnames]
      · exact .of_error (hx.trans (by rw [he]; rfl)) (fun h => hnot (List.forall_mem_cons.mp h).2)
          (later e hgood hfault)
    · refine .of_error ?_ (fun h => hgood (List.forall_mem_cons.mp h).1)
        ⟨[], entry, rest, rfl, by simp, hfault⟩
      simp only [ofEntries, hread]

theorem ofDirectory_decides (files : FileTree) (path : String) :
    Decides (ofDirectory files path) (files.HoldsMeasurements path)
      (fun ms => ∃ entries, files.list path = .ok entries ∧ ListsExactly entries ms)
      (DirectoryFault files path) := by
  cases hlist : files.list path with
  | error cause =>
    refine .of_error (by rw [ofDirectory, hlist]) ?_ (.unlisted hlist)
    rintro ⟨entries, h, -⟩
    rw [hlist] at h
    cases h
  | ok entries =>
    have hx : ofDirectory files path = ofEntries path entries := by rw [ofDirectory, hlist]
    rcases (ofEntries_decides path entries).cases with
      ⟨hall, ms, hms, hlists⟩ | ⟨hnot, e, he, hfault⟩
    · exact .of_ok (hx.trans hms) ⟨entries, hlist, hall⟩ ⟨entries, rfl, hlists⟩
    · refine .of_error (hx.trans he) ?_ (.entry hlist hfault)
      rintro ⟨other, h, hall⟩
      rw [hlist] at h
      cases h
      exact hnot hall

end Measurement

end EnclaveGate
