/-!
# Paths and trees of files

A path is a list of names below a root, free of empty names and of `.`; a tree holds files below a
current directory.  `FileTree.find` follows a path from the current directory and says what is
there.
-/

namespace Reckoner

/-- A path in normal form. -/
structure FilePath where
  /-- What an absolute path begins with; empty for a relative one. -/
  root : String
  /-- The names on the way. -/
  names : List String
deriving DecidableEq, Repr

namespace FilePath

/-- The root of a written path: of several slashes at its start one counts, but two are kept. -/
def rootOf (path : String) : String :=
  match (path.toList.takeWhile (· == '/')).length with
  | 0 => ""
  | 2 => "//"
  | _ => "/"

/-- The path with the given text: the names between slashes behind its `rootOf`. -/
def ofString (path : String) : FilePath where
  root := rootOf path
  names := ((path.toList.splitOn '/').map String.ofList).filter fun name =>
    name != "" && name != "."

/-- The text of a path, its `root` in front of its `names`; the current directory is `.`. -/
def toString (p : FilePath) : String :=
  if p.root.isEmpty && p.names.isEmpty then "." else p.root ++ "/".intercalate p.names

/-- The path of an entry of a directory. -/
def child (p : FilePath) (name : String) : FilePath := { p with names := p.names ++ [name] }

/-- Whether a null character is among the names of a path.  No file is there. -/
def holdsNull (p : FilePath) : Bool := p.names.any fun name => name.toList.contains '\x00'

/-- The last name of a path, empty if it has none. -/
def lastName (p : FilePath) : String := p.names.getLast?.getD ""

end FilePath

/-- What is found at the end of a path. -/
inductive Found where
  | file (bytes : ByteArray)
  | directory
  /-- Nothing, or nothing at some point of the way. -/
  | missing
  /-- A file in the middle of the way. -/
  | blocked

/-- Files and directories below the current directory, each with the names on its way; directories
on the way to an entry need no entry of their own. -/
structure FileTree where
  /-- The bytes of the files, and no bytes for directories. -/
  entries : List (List String × Option ByteArray)

namespace FileTree

/-- What is at the end of a way without detours, by `entries`. -/
def entry (tree : FileTree) (names : List String) : Found :=
  match tree.entries.lookup names with
  | some (some bytes) => .file bytes
  | some none => .directory
  | none =>
    if tree.entries.any fun (other, _) => names.isPrefixOf other then .directory else .missing

/-- Follows names from the directory whose way, backwards, is `here`.  Nothing is known above the
current directory but that it is a directory. -/
def follow (tree : FileTree) (here : List String) : List String → Found
  | [] => if here.isEmpty then .directory else tree.entry here.reverse
  | ".." :: rest =>
    match here with
    | [] => if rest.all (· == "..") then .directory else .missing
    | _ :: above => tree.follow above rest
  | name :: rest =>
    match tree.entry (name :: here).reverse with
    | .directory => tree.follow (name :: here) rest
    -- A file is no way to anything else, not even to the directory that it is in.
    | .file bytes => if rest.isEmpty then .file bytes else .blocked
    | found => found

/-- What is at the end of a path, where its names lead to (`follow`).  Of absolute paths only the
root is known. -/
def find (tree : FileTree) (path : FilePath) : Found :=
  if path.root.isEmpty then tree.follow [] path.names
  else if path.names.isEmpty then .directory
  else .missing

end FileTree

end Reckoner
