import EnclaveGate.Proofs.Settings.Files
import Mathlib.Data.List.TakeWhile

/-!
# The order of a directory

The system lists a directory in an order of its own, and hidden files, directories and links may
stand anywhere between the files. None of this matters: whether the measurements are read, and which
they are, is settled by what the visible regular files hold. The order decides only which fault is
named when there are several.
-/

namespace EnclaveGate

/-! ## The text of a file -/

namespace Text

theorem ofUtf8?_eq_some_iff {bs : Bytes} {text : String} :
    ofUtf8? bs = some text ↔ bs = utf8 text.toList := by
  have hencoded : text.toByteArray = ⟨(utf8 text.toList).toArray⟩ := by
    rw [← String.utf8Encode_toList]
    exact ByteArray.ext List.data_toByteArray
  unfold ofUtf8? String.fromUTF8?
  constructor
  · intro h
    split at h
    · cases h
      exact congrArg (fun bytes => bytes.data.toList) hencoded
    · cases h
  · rintro rfl
    rw [← hencoded, dif_pos text.isValidUTF8]
    rfl

/-- A text is made of some characters and of white space around them. -/
def Pads (s core : List Char) : Prop :=
  ∃ before behind, s = before ++ (core ++ behind) ∧ (∀ c ∈ before, isBlank c = true) ∧
    ∀ c ∈ behind, isBlank c = true

theorem pads_trim (s : List Char) : Pads s (trim s) := by
  have hblank : ∀ cs : List Char, ∀ c ∈ cs.takeWhile isBlank, isBlank c = true :=
    fun cs => List.all_eq_true.mp List.all_takeWhile
  refine ⟨s.takeWhile isBlank, ((s.dropWhile isBlank).reverse.takeWhile isBlank).reverse, ?_,
    hblank s, fun c hc => hblank _ c (List.mem_reverse.mp hc)⟩
  rw [trim, ← List.reverse_append, List.takeWhile_append_dropWhile, List.reverse_reverse,
    List.takeWhile_append_dropWhile]

/-- Trimming stops at the first character from either end that is no white space. -/
theorem Pads.trim_eq {s core : List Char} (h : Pads s core)
    (hcore : ∀ c ∈ core, isBlank c = false) : trim s = core := by
  obtain ⟨before, behind, rfl, hbefore, hbehind⟩ := h
  have stops : ∀ cs rest : List Char, cs ≠ [] → (∀ c ∈ cs, isBlank c = false) →
      (cs ++ rest).dropWhile isBlank = cs ++ rest := by
    intro cs rest hne hcs
    obtain ⟨c, cs, rfl⟩ := List.exists_cons_of_ne_nil hne
    have hc := hcs c List.mem_cons_self
    rw [List.cons_append, List.dropWhile_cons_of_neg (by simp [hc])]
  rw [trim, List.dropWhile_append_of_pos hbefore]
  by_cases hempty : core = []
  · subst hempty
    rw [List.nil_append, List.dropWhile_eq_nil_iff.mpr hbehind]
    rfl
  · have hblank : ∀ c ∈ behind.reverse, isBlank c = true := by simpa using hbehind
    have hback := stops core.reverse [] (by simpa using hempty) (by simpa using hcore)
    rw [List.append_nil] at hback
    rw [stops core behind hempty hcore, List.reverse_append, List.dropWhile_append_of_pos hblank,
      hback, List.reverse_reverse]

end Text

/-- The bytes of a file are the encoding of some characters with white space around them. -/
def Inscribes (content : Bytes) (core : List Char) : Prop :=
  ∃ s, content = Text.utf8 s ∧ Text.Pads s core

/-- A file holds the digits of a measurement. -/
def HoldsMeasurement (content : Bytes) : Prop :=
  ∃ core, Inscribes content core ∧ core.length = 64 ∧ ∀ c ∈ core, Hex.IsDigit c

/-- A file holds the digits of this measurement. -/
def SpellsMeasurement (content : Bytes) (m : Measurement) : Prop :=
  ∃ core, Inscribes content core ∧ Hex.Spells core m.toList

theorem Hex.IsDigit.not_blank {c : Char} (h : IsDigit c) : Text.isBlank c = false :=
  forall_digit (p := fun c => Text.isBlank c = false) (by decide) h

theorem FileTree.fileText_eq_ok_iff {content : Bytes} {text : String} :
    fileText content = .ok text ↔ content = Text.utf8 text.toList := by
  rw [← Text.ofUtf8?_eq_some_iff, fileText]
  cases Text.ofUtf8? content <;> simp

/-- Digits that a file holds are what is left of its text. -/
theorem inscribes_digits_iff {content : Bytes} {core : List Char}
    (hcore : ∀ c ∈ core, Hex.IsDigit c) :
    Inscribes content core ↔
      ∃ text, FileTree.fileText content = .ok text ∧ trimmed text = core := by
  constructor
  · rintro ⟨s, rfl, hpads⟩
    refine ⟨String.ofList s, FileTree.fileText_eq_ok_iff.mpr (by rw [String.toList_ofList]), ?_⟩
    rw [trimmed, String.toList_ofList]
    exact hpads.trim_eq fun c hc => (hcore c hc).not_blank
  · rintro ⟨text, htext, rfl⟩
    exact ⟨text.toList, FileTree.fileText_eq_ok_iff.mp htext, Text.pads_trim text.toList⟩

theorem holdsMeasurement_iff {content : Bytes} : HoldsMeasurement content ↔
    ∃ text, FileTree.fileText content = .ok text ∧ HoldsDigits text 64 := by
  constructor
  · rintro ⟨core, hinscribes, hlength, hdigits⟩
    obtain ⟨text, htext, rfl⟩ := (inscribes_digits_iff hdigits).mp hinscribes
    exact ⟨text, htext, hlength, hdigits⟩
  · rintro ⟨text, htext, hlength, hdigits⟩
    exact ⟨trimmed text, (inscribes_digits_iff hdigits).mpr ⟨text, htext, rfl⟩, hlength, hdigits⟩

theorem spellsMeasurement_iff {content : Bytes} {m : Measurement} : SpellsMeasurement content m ↔
    ∃ text, FileTree.fileText content = .ok text ∧ Hex.Spells (trimmed text) m.toList := by
  constructor
  · rintro ⟨core, hinscribes, hspells⟩
    obtain ⟨text, htext, rfl⟩ := (inscribes_digits_iff hspells.digits).mp hinscribes
    exact ⟨text, htext, hspells⟩
  · rintro ⟨text, htext, hspells⟩
    exact ⟨trimmed text, (inscribes_digits_iff hspells.digits).mpr ⟨text, htext, rfl⟩, hspells⟩

/-! ## The entries in any order -/

/-- Two readings fail both, or they yield the same measurements. -/
structure Agree (x y : Except ConfigError (List Measurement)) : Prop where
  /-- One succeeds if the other one does. -/
  ok_iff : (∃ ms, x = .ok ms) ↔ ∃ ms, y = .ok ms
  /-- What they yield are lists of the same measurements. -/
  perm : ∀ ms ms', x = .ok ms → y = .ok ms' → ms.Perm ms'

namespace FileTree

/-- A visible regular file among some entries yields this when it is read. -/
def Shown (entries : List Entry) (content : Except ReadFailure String) : Prop :=
  ∃ entry ∈ entries, entry.Shows content

/-- Whether an entry is a visible regular file. -/
def Entry.isVisible (entry : Entry) : Bool :=
  match entry.kind with
  | .file _ => !Measurement.isHidden entry.name
  | .special => false

theorem forall_isGood_iff {entries : List Entry} : (∀ entry ∈ entries, entry.IsGood) ↔
    ∀ content, Shown entries content → ∃ text, content = .ok text ∧ HoldsDigits text 64 := by
  constructor
  · rintro h content ⟨entry, hentry, hshows⟩
    exact h entry hentry content hshows
  · intro h entry hentry content hshows
    exact h content ⟨entry, hentry, hshows⟩

theorem exists_names_iff {entries : List Entry} {m : Measurement} :
    (∃ entry ∈ entries, entry.Names m) ↔
      ∃ text, Shown entries (.ok text) ∧ Hex.Spells (trimmed text) m.toList := by
  constructor
  · rintro ⟨entry, hentry, text, hshows, hspells⟩
    exact ⟨text, ⟨entry, hentry, hshows⟩, hspells⟩
  · rintro ⟨text, ⟨entry, hentry, hshows⟩, hspells⟩
    exact ⟨entry, hentry, text, hshows, hspells⟩

end FileTree

namespace Measurement

open FileTree (Shown forall_isGood_iff exists_names_iff)

theorem ofEntries_ok_iff {directory : String} {entries : List FileTree.Entry} :
    (∃ ms, ofEntries directory entries = .ok ms) ↔
      ∀ content, Shown entries content → ∃ text, content = .ok text ∧ HoldsDigits text 64 := by
  rw [← forall_isGood_iff]
  rcases (ofEntries_decides directory entries).cases with ⟨hall, ms, hms, -⟩ | ⟨hnot, e, he, -⟩
  · exact iff_of_true ⟨ms, hms⟩ hall
  · refine iff_of_false ?_ hnot
    rintro ⟨ms, hms⟩
    rw [he] at hms
    cases hms

/-- Entries with the same visible files are read alike, wherever these files stand. -/
theorem ofEntries_agree {directory directory' : String} {entries entries' : List FileTree.Entry}
    (h : ∀ content, Shown entries content ↔ Shown entries' content) :
    Agree (ofEntries directory entries) (ofEntries directory' entries') where
  ok_iff := by
    simp only [ofEntries_ok_iff, h]
  perm := by
    intro ms ms' hms hms'
    have hlists := ((ofEntries_decides directory entries).ok ms hms).2
    have hlists' := ((ofEntries_decides directory' entries').ok ms' hms').2
    rw [List.perm_ext_iff_of_nodup hlists.nodup hlists'.nodup]
    intro m
    rw [hlists.mem_iff, hlists'.mem_iff, exists_names_iff, exists_names_iff]
    simp only [h]

/-- Entries that are not visible files leave no trace, not even in an error. -/
theorem ofEntries_visible (directory : String) (entries : List FileTree.Entry) :
    ofEntries directory (entries.filter (·.isVisible)) = ofEntries directory entries := by
  induction entries with
  | nil => rfl
  | cons entry rest ih =>
    cases hvisible : entry.isVisible with
    | true => simp only [List.filter_cons_of_pos hvisible, ofEntries, ih]
    | false =>
      have hskip : ofVisible? directory entry = none := by
        rcases ofVisible?_cases directory entry with ⟨hnone, -⟩ | ⟨content, ⟨hkind, hname⟩, -⟩
        · exact hnone
        · rw [FileTree.Entry.isVisible, hkind] at hvisible
          simp only [hname, Bool.not_false, Bool.true_eq_false] at hvisible
      rw [List.filter_cons_of_neg (by simp [hvisible]), ih]
      simp only [ofEntries, hskip]

/-- Some entries are read as the set of what the visible files among them hold. -/
structure ReadAsSet (directory : String) (entries : List FileTree.Entry) : Prop where
  /-- Every visible file has to hold the digits of a measurement, and nothing else has to hold. -/
  accepted : (∃ ms, ofEntries directory entries = .ok ms) ↔
    ∀ content, Shown entries content → ∃ text, content = .ok text ∧ HoldsDigits text 64
  /-- The measurements are those in the files, each listed once. -/
  exact : ∀ ms, ofEntries directory entries = .ok ms → ms.Nodup ∧
    ∀ m, m ∈ ms ↔ ∃ text, Shown entries (.ok text) ∧ Hex.Spells (trimmed text) m.toList
  /-- The order does not matter. -/
  reordered : ∀ other, entries.Perm other →
    Agree (ofEntries directory entries) (ofEntries directory other)
  /-- Nor does anything but what the visible files hold. -/
  unseen : ∀ directory' other, (∀ content, Shown entries content ↔ Shown other content) →
    Agree (ofEntries directory entries) (ofEntries directory' other)
  /-- As long as the visible files keep their order, the same fault is named. -/
  skipped : ∀ other, entries.filter (·.isVisible) = other.filter (·.isVisible) →
    ofEntries directory entries = ofEntries directory other

theorem readAsSet (directory : String) (entries : List FileTree.Entry) :
    ReadAsSet directory entries where
  accepted := ofEntries_ok_iff
  exact := by
    intro ms hms
    have hlists := ((ofEntries_decides directory entries).ok ms hms).2
    refine ⟨hlists.nodup, fun m => ?_⟩
    rw [hlists.mem_iff, exists_names_iff]
  reordered := by
    intro other hperm
    refine ofEntries_agree fun content => ?_
    simp only [Shown, hperm.mem_iff]
  unseen := fun _ _ hsame => ofEntries_agree hsame
  skipped := by
    intro other hsame
    rw [← ofEntries_visible, hsame, ofEntries_visible]

end Measurement

/-! ## The directory at a path -/

namespace FileTree

/-- A visible regular file with these bytes stands in the directory at a path. -/
def Displays (files : FileTree) (path : String) (content : Bytes) : Prop :=
  ∃ location name, files.resolve path = .ok location ∧
    (location ++ [name], .file content) ∈ files.nodes ∧ Measurement.isHidden name = false

theorem entryIn?_file (directory : PathParts) (name : String) (content : Bytes) :
    entryIn? directory (directory ++ [name]) (.file content) =
      some ⟨name, .file (fileText content)⟩ := by
  simp [entryIn?]

theorem entryIn?_eq_file {directory location : PathParts} {node : FileNode} {entry : Entry}
    {text : Except ReadFailure String} (h : entryIn? directory location node = some entry)
    (hkind : entry.kind = .file text) :
    location = directory ++ [entry.name] ∧ ∃ content, node = .file content ∧
      text = fileText content := by
  unfold entryIn? at h
  split at h
  · cases h
  · rename_i name hname
    split at h
    · rename_i hdirectory
      cases h
      obtain ⟨parents, rfl⟩ := List.getLast?_eq_some_iff.mp hname
      rw [List.dropLast_concat] at hdirectory
      subst hdirectory
      refine ⟨rfl, ?_⟩
      cases node with
      | file content => exact ⟨content, rfl, (EntryKind.file.inj hkind).symm⟩
      | directory => cases hkind
      | link target => cases hkind
    · cases h

theorem list_eq_ok {files : FileTree} {path : String} {entries : List Entry}
    (h : files.list path = .ok entries) : ∃ location, files.resolve path = .ok location ∧
      entries = files.nodes.filterMap fun n => entryIn? location n.1 n.2 := by
  unfold list at h
  cases hresolve : files.resolve path with
  | error cause =>
    rw [hresolve] at h
    cases h
  | ok location =>
    rw [hresolve] at h
    simp only [bind, Except.bind] at h
    split at h
    · cases h
      exact ⟨location, rfl, rfl⟩
    · cases h

/-- The visible files that are listed are those that stand in the directory. -/
theorem shown_iff {files : FileTree} {path : String} {entries : List Entry}
    (h : files.list path = .ok entries) {text : Except ReadFailure String} :
    Shown entries text ↔ ∃ content, files.Displays path content ∧ text = fileText content := by
  obtain ⟨location, hresolve, rfl⟩ := list_eq_ok h
  constructor
  · rintro ⟨entry, hentry, hkind, hname⟩
    obtain ⟨⟨place, node⟩, hnode, hin⟩ := List.mem_filterMap.mp hentry
    obtain ⟨rfl, content, rfl, htext⟩ := entryIn?_eq_file hin hkind
    exact ⟨content, ⟨location, entry.name, hresolve, hnode, hname⟩, htext⟩
  · rintro ⟨content, ⟨location', name, hresolve', hnode, hname⟩, rfl⟩
    rw [hresolve] at hresolve'
    cases hresolve'
    refine ⟨⟨name, .file (fileText content)⟩, ?_, rfl, hname⟩
    exact List.mem_filterMap.mpr ⟨_, hnode, entryIn?_file location name content⟩

end FileTree

namespace Measurement

open FileTree (shown_iff)

variable {files : FileTree} {path : String} {entries : List FileTree.Entry}

theorem ofDirectory_eq (h : files.list path = .ok entries) :
    ofDirectory files path = ofEntries path entries := by
  rw [ofDirectory, h]

theorem list_of_ofDirectory {ms : List Measurement} (h : ofDirectory files path = .ok ms) :
    ∃ entries, files.list path = .ok entries := by
  obtain ⟨-, entries, hlist, -⟩ := (ofDirectory_decides files path).ok ms h
  exact ⟨entries, hlist⟩

/-- A directory is read as the set of what its visible files hold. -/
structure ReadsDirectory (files : FileTree) (path : String) : Prop where
  /-- The directory can be listed, and every visible file in it holds a measurement. -/
  accepted : (∃ ms, ofDirectory files path = .ok ms) ↔
    (∃ entries, files.list path = .ok entries) ∧
      ∀ content, files.Displays path content → HoldsMeasurement content
  /-- The measurements are those in the files, each listed once. -/
  exact : ∀ ms, ofDirectory files path = .ok ms → ms.Nodup ∧
    ∀ m, m ∈ ms ↔ ∃ content, files.Displays path content ∧ SpellsMeasurement content m
  /-- The entries are read in the order in which they are listed. -/
  listed : ∀ entries, files.list path = .ok entries →
    ofDirectory files path = ofEntries path entries
  /-- Two directories with the same visible files are read alike. -/
  unseen : ∀ files' path', (∃ entries, files.list path = .ok entries) →
    (∃ entries, files'.list path' = .ok entries) →
    (∀ content, files.Displays path content ↔ files'.Displays path' content) →
    Agree (ofDirectory files path) (ofDirectory files' path')
  /-- While the visible files keep their order, nothing else in the directory is of any account. -/
  skipped : ∀ files' entries entries', files.list path = .ok entries →
    files'.list path = .ok entries' →
    entries.filter (·.isVisible) = entries'.filter (·.isVisible) →
    ofDirectory files path = ofDirectory files' path

theorem readsDirectory (files : FileTree) (path : String) : ReadsDirectory files path where
  accepted := by
    constructor
    · rintro ⟨ms, hms⟩
      obtain ⟨entries, hlist⟩ := list_of_ofDirectory hms
      refine ⟨⟨entries, hlist⟩, fun content hdisplays => ?_⟩
      have hall := ofEntries_ok_iff.mp ⟨ms, (ofDirectory_eq hlist).symm.trans hms⟩
      exact holdsMeasurement_iff.mpr
        (hall _ ((shown_iff hlist).mpr ⟨content, hdisplays, rfl⟩))
    · rintro ⟨⟨entries, hlist⟩, hall⟩
      rw [ofDirectory_eq hlist, ofEntries_ok_iff]
      intro text hshown
      obtain ⟨content, hdisplays, rfl⟩ := (shown_iff hlist).mp hshown
      exact holdsMeasurement_iff.mp (hall content hdisplays)
  exact := by
    intro ms hms
    obtain ⟨entries, hlist⟩ := list_of_ofDirectory hms
    rw [ofDirectory_eq hlist] at hms
    obtain ⟨hnodup, hmem⟩ := (readAsSet path entries).exact ms hms
    refine ⟨hnodup, fun m => ?_⟩
    simp only [hmem, shown_iff hlist, spellsMeasurement_iff]
    constructor
    · rintro ⟨text, ⟨content, hdisplays, htext⟩, hspells⟩
      exact ⟨content, hdisplays, text, htext.symm, hspells⟩
    · rintro ⟨content, hdisplays, text, htext, hspells⟩
      exact ⟨text, ⟨content, hdisplays, htext.symm⟩, hspells⟩
  listed := fun _ hlist => ofDirectory_eq hlist
  unseen := by
    rintro files' path' ⟨entries, hlist⟩ ⟨entries', hlist'⟩ hsame
    rw [ofDirectory_eq hlist, ofDirectory_eq hlist']
    refine ofEntries_agree fun text => ?_
    simp only [shown_iff hlist, shown_iff hlist', hsame]
  skipped := by
    intro files' entries entries' hlist hlist' hsame
    rw [ofDirectory_eq hlist, ofDirectory_eq hlist']
    exact (readAsSet path entries).skipped entries' hsame

/-- However the system lists a directory, the same measurements are read from it or none. -/
theorem directories_read_as_sets :
    (∀ directory entries, ReadAsSet directory entries) ∧
    ∀ files path, ReadsDirectory files path :=
  ⟨readAsSet, readsDirectory⟩

/-- Two files with one measurement, between things that are no visible files. -/
def crowdedFiles : FileTree :=
  ⟨[(["enclaves"], .directory),
    (["enclaves", ".hidden"], .file [0xff]),
    (["enclaves", "upper"], .file (List.replicate 64 0x41)),
    (["enclaves", "older"], .directory),
    (["enclaves", "older", "short"], .file []),
    (["enclaves", "lower"], .file ([0x20] ++ List.replicate 64 0x61 ++ [0x0a])),
    (["enclaves", "current"], .link "upper")], []⟩

example : ofDirectory crowdedFiles "enclaves" = .ok [Vector.replicate 32 0xaa] := by
  decide +kernel

end Measurement

end EnclaveGate
