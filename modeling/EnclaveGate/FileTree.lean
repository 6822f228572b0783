import EnclaveGate.Error
import EnclaveGate.Text.Encoding

/-!
# Files of the operator

A snapshot of a file system: regular files, directories and symbolic links, and the working directory.
Paths are followed part by part, from the root if they begin with a slash and else from the working
directory. A link is replaced by its target, which starts from the root or from where the link stands,
and every part, also an empty one, must start from a directory. What is not in the snapshot does not
exist.
-/

namespace EnclaveGate

/-- What stands at a location. -/
inductive FileNode
  /-- A regular file. -/
  | file (content : Bytes)
  /-- A directory. -/
  | directory
  /-- A symbolic link. -/
  | link (target : String)
deriving DecidableEq

/-- The parts of a path, also the empty ones. -/
abbrev PathParts := List String

/-- A file system: where something stands, and what. -/
structure FileTree where
  /-- The entries by location, from the root. -/
  nodes : List (PathParts × FileNode)
  /-- The location of the working directory. -/
  home : PathParts

namespace FileTree

/-- A file system with nothing but an empty working directory. -/
def empty : FileTree := ⟨[(["work"], .directory)], ["work"]⟩

/-- What stands at a location; the root is a directory. -/
def node? (tree : FileTree) (location : PathParts) : Option FileNode :=
  if location.isEmpty then some .directory else tree.nodes.lookup location

/-- The parts of a path. -/
def parts (path : String) : PathParts :=
  (path.toList.splitOn '/').map String.ofList

/-- Where a path starts, if relative ones start from a location. -/
def origin (location : PathParts) (path : String) : PathParts :=
  if path.startsWith "/" then [] else location

/-- How many links are followed in one path. -/
def maxLinks : Nat := 40

/-- The location at the end of the parts, from a location on; `follow` goes on at a link. The root is
its own parent. -/
def walkWith (tree : FileTree) (follow : PathParts → PathParts → Except ReadFailure PathParts) :
    PathParts → PathParts → Except ReadFailure PathParts
  | location, [] => .ok location
  | location, part :: rest =>
    match tree.node? location with
    | none => .error .notFound
    | some .directory =>
      if part == "" || part == "." then walkWith tree follow location rest
      else if part == ".." then walkWith tree follow location.dropLast rest
      else
        match tree.node? (location ++ [part]) with
        | none => .error .notFound
        | some (.link target) => follow (origin location target) (parts target ++ rest)
        | some _ => walkWith tree follow (location ++ [part]) rest
    | some _ => .error .notADirectory

/-- The location at the end of the parts, with at most `links` links on the way. -/
def walk (tree : FileTree) : Nat → PathParts → PathParts → Except ReadFailure PathParts
  | 0 => walkWith tree fun _ _ => .error (.other "Too many levels of symbolic links (os error 40)")
  | links + 1 => walkWith tree (walk tree links)

/-- The location that a path leads to. -/
def resolve (tree : FileTree) (path : String) : Except ReadFailure PathParts :=
  if path.toList.contains '\x00' then .error .nulInPath
  else if path.isEmpty then .error .notFound
  else walk tree maxLinks (origin tree.home path) (parts path)

/-! ## Reading -/

/-- The text of a file. -/
def fileText (content : Bytes) : Except ReadFailure String :=
  match Text.ofUtf8? content with
  | some text => .ok text
  | none => .error .invalidText

/-- The text of the file at a path. -/
def readText (tree : FileTree) (path : String) : Except ReadFailure String := do
  let location ← tree.resolve path
  match tree.node? location with
  | some (.file content) => fileText content
  | some .directory => .error .isADirectory
  | _ => .error .notFound

/-- What an entry of a directory is. -/
inductive EntryKind
  /-- A regular file, with what reading it yields. -/
  | file (text : Except ReadFailure String)
  /-- Anything else. -/
  | special

/-- An entry of a directory. -/
structure Entry where
  /-- The name of the entry. -/
  name : String
  /-- What it is. -/
  kind : EntryKind

/-- The entry at a location, if it stands directly in a directory. -/
def entryIn? (directory : PathParts) (location : PathParts) (node : FileNode) : Option Entry :=
  match location.getLast? with
  | none => none
  | some name =>
    if location.dropLast = directory then
      some ⟨name, match node with
        | .file content => .file (fileText content)
        | _ => .special⟩
    else none

/-- The entries of the directory at a path. -/
def list (tree : FileTree) (path : String) : Except ReadFailure (List Entry) := do
  let location ← tree.resolve path
  match tree.node? location with
  | some .directory => .ok (tree.nodes.filterMap fun n => entryIn? location n.1 n.2)
  | _ => .error .notADirectory

/-! ## Building a snapshot -/

/-- The snapshot with something else at a location. -/
def put (tree : FileTree) (location : PathParts) (node : FileNode) : FileTree :=
  { tree with nodes := tree.nodes.filter (·.1 != location) ++ [(location, node)] }

/-- The snapshot with directories for all parts of a path from a location on, and where it ends. -/
def makeDirectories (tree : FileTree) (location : PathParts) : PathParts → FileTree × PathParts
  | [] => (tree, location)
  | part :: rest =>
    match tree.walk maxLinks location [part] with
    | .ok next => makeDirectories tree next rest
    | .error _ =>
      makeDirectories (tree.put (location ++ [part]) .directory) (location ++ [part]) rest

/-- The snapshot with something at a path, whose parents are made where they are missing. -/
def add (tree : FileTree) (path : String) (node : FileNode) : FileTree :=
  let all := (parts path).filter fun part => part != "" && part != "."
  match all.getLast? with
  | none => tree
  | some name =>
    let (tree, parent) := tree.makeDirectories (origin tree.home path) all.dropLast
    tree.put (parent ++ [name]) node

end FileTree

end EnclaveGate
