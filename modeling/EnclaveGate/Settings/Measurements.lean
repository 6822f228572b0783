import EnclaveGate.FileTree
import EnclaveGate.Message.Basic
import EnclaveGate.Text.Blank

/-!
# Directories of measurements

A directory of measurements holds one measurement in each visible regular file, as hexadecimal text
with white space around it. Everything else in the directory is skipped. The result is a set: a
measurement that stands in two files is listed once.
-/

namespace EnclaveGate

/-- The block of `n` bytes in a hexadecimal text. -/
def blockOfText (n : Nat) (field text : String) : Except ConfigError (Block n) :=
  match Hex.decode (Text.utf8 (Text.trim text.toList)) with
  | .error cause => .error (.hex field cause)
  | .ok bytes =>
    match Block.ofList? n bytes with
    | some block => .ok block
    | none => .error (.length field n bytes.length)

namespace Measurement

/-- The path of an entry of a directory. -/
def entryPath (directory name : String) : String :=
  if directory.endsWith "/" then directory ++ name else directory ++ "/" ++ name

/-- Whether an entry is skipped because of its name. -/
def isHidden (name : String) : Bool := name.startsWith "."

/-- The measurement in an entry, if it is a visible file. -/
def ofVisible? (directory : String) (entry : FileTree.Entry) :
    Option (Except ConfigError Measurement) :=
  match entry.kind with
  | .special => none
  | .file content =>
    if isHidden entry.name then none
    else
      match content with
      | .error cause => some (.error (.read (entryPath directory entry.name) cause))
      | .ok text => some (blockOfText 32 entry.name text)

/-- The measurements in the entries of a directory; the first entry that holds none is the error. -/
def ofEntries (directory : String) : List FileTree.Entry → Except ConfigError (List Measurement)
  | [] => .ok []
  | entry :: rest =>
    match ofVisible? directory entry with
    | none => ofEntries directory rest
    | some (.error cause) => .error cause
    | some (.ok m) => (ofEntries directory rest).map (·.insert m)

/-- The measurements in the directory at a path. -/
def ofDirectory (files : FileTree) (path : String) : Except ConfigError (List Measurement) :=
  match files.list path with
  | .error cause => .error (.read path cause)
  | .ok entries => ofEntries path entries

end Measurement

end EnclaveGate
