import StringCalculator.Delimiter
import StringCalculator.Files

/-!
# File trees

A tree of files in memory, with the directory at its root as the place relative paths start from.
The tree lists its files and directories by the names on the way to them; the directories on the way
exist without being listed.

A path is walked name by name. `.` stays where it is and `..` goes up, both from directories only,
and an empty name (two slashes in a row, or a slash at the end) counts as `.`. Above the root
nothing is known but that there are directories, so no other name leads anywhere from there, and the
same holds for paths that begin with a slash.
-/

namespace StringCalculator

/-- What a tree holds under a path. -/
inductive Entry where
  /-- A file with its content. -/
  | file (content : List UInt8)
  /-- A directory. -/
  | directory
deriving DecidableEq

/-- Files and directories, each with the names that lead to it from the root. -/
structure FileTree where
  /-- What is listed. -/
  entries : List (List String × Entry)

namespace FileTree

/-- Where a walk has come to. -/
inductive Place where
  /-- A directory of the tree. -/
  | directory (names : List String)
  /-- A directory above the root, or at the top of the system. -/
  | outside
  /-- A file. -/
  | file (content : List UInt8)
deriving DecidableEq

/-- The names a path consists of. -/
def names (path : String) : List String :=
  Delimiter.pieces ["/"] path

/-- The tree that holds given entries under given paths. -/
def ofPaths (entries : List (String × Entry)) : FileTree :=
  ⟨entries.map fun e ↦ ((names e.1).filter fun n ↦ n != "" && n != ".", e.2)⟩

/-- What the tree holds under the given names: what is listed there, or a directory that something
listed stands in. -/
def entry? (t : FileTree) (path : List String) : Option Entry :=
  match t.entries.find? fun e ↦ e.1 == path with
  | some e => some e.2
  | none => if t.entries.any fun e ↦ path.isPrefixOf e.1 then some .directory else none

/-- The greatest number of bytes a name may have. -/
def maxNameLength : Nat := 255

/-- The greatest number of bytes a path may have. -/
def maxPathLength : Nat := 4095

/-- One step of a walk. -/
def enter (t : FileTree) (place : Place) (name : String) : Except ReadError Place :=
  match place with
  | .file _ => .error .notDirectory
  | .outside =>
    if name = "" ∨ name = "." ∨ name = ".." then .ok .outside
    else if maxNameLength < name.utf8ByteSize then .error .nameTooLong
    else .error .missing
  | .directory path =>
    if name = "" ∨ name = "." then .ok (.directory path)
    else if name = ".." then
      if path.isEmpty then .ok .outside else .ok (.directory path.dropLast)
    else if maxNameLength < name.utf8ByteSize then .error .nameTooLong
    else
      match t.entry? (path ++ [name]) with
      | some (.file content) => .ok (.file content)
      | some .directory => .ok (.directory (path ++ [name]))
      | none => .error .missing

/-- Where a path leads. -/
def locate (t : FileTree) (path : String) : Except ReadError Place :=
  if path.isEmpty then .error .missing
  else if maxPathLength < path.utf8ByteSize then .error .nameTooLong
  else if path.toList.head? = some '/' then (names path).foldlM t.enter .outside
  else (names path).foldlM t.enter (.directory [])

/-- What reading a path of the tree gives. -/
def read (t : FileTree) (path : String) : Contents :=
  match t.locate path with
  | .error e => .error e
  | .ok (.file content) => .ok content
  | .ok _ => .error .isDirectory

/-- Whether a path of the tree leads anywhere. -/
def holds (t : FileTree) (path : String) : Bool :=
  (t.locate path).isOk

/-- The tree as the files around a program. -/
def files (t : FileTree) : Files :=
  ⟨t.read, t.holds⟩

end FileTree

end StringCalculator
