import ReleaseNames.Library

/-!
# Files

A file system is a list of files and directories at their places, a place being
the list of names on the way to it from the root. A directory exists if it is
listed or if something below it is. A path is followed name by name: each name,
even a dot or nothing at all, is looked up in a directory that has to exist, so
`missing/../dir` leads nowhere although `dir` may exist. There are no links, and
nothing is ever written.
-/

namespace ReleaseNames

/-- Paths are texts with a slash between their names. -/
abbrev FilePath : Type := String

namespace FilePath

def isAbsolute (path : FilePath) : Bool :=
  path.toList.head? == some '/'

/-- The names between the slashes of a path. -/
def names (path : FilePath) : List String :=
  (path.toList.splitOn '/').map String.ofList

/-- The place that a name leads to from another place. -/
def step (place : List String) : String → List String
  | "" => place
  | "." => place
  | ".." => place.dropLast
  | name => place ++ [name]

/-- The place of an absolute path on which every directory exists. -/
def place (path : FilePath) : List String :=
  (names path).foldl step []

example : place "/a/./b//../c/" = ["a", "c"] := by decide +kernel

/-- A path of this many bytes is too long to be followed. -/
def byteLimit : Nat := 4096

/-- A name inside a directory; an absolute name stands for itself. -/
def join (dir : FilePath) (name : String) : FilePath :=
  if isAbsolute name then name
  else if dir.toList = [] ∨ dir.toList.getLast? = some '/' then dir ++ name
  else dir ++ "/" ++ name

end FilePath

inductive FileEntry where
  | directory
  | file (bytes : List UInt8)
  | library (exports : Library)

/-- Files and directories by their places. -/
structure FileSystem where
  entries : List (List String × FileEntry)
  /-- The place where paths start that do not start at the root. -/
  workingPlace : List String

namespace FileSystem

def entryAt? (fs : FileSystem) (place : List String) : Option FileEntry :=
  match fs.entries.find? fun e => e.1 == place with
  | some e => some e.2
  | none =>
    if place = [] ∨ fs.entries.any fun e => place.isPrefixOf e.1 then some .directory else none

/-- What is found by following names from a place. -/
def follow? (fs : FileSystem) : List String → List String → Option FileEntry
  | place, [] => fs.entryAt? place
  | place, name :: rest =>
    match fs.entryAt? place with
    | some .directory => follow? fs (FilePath.step place name) rest
    | _ => none

def entry? (fs : FileSystem) (path : FilePath) : Option FileEntry :=
  if path = "" ∨ FilePath.byteLimit ≤ path.utf8ByteSize then none
  else fs.follow? (if path.isAbsolute then [] else fs.workingPlace) path.names

def isDirectory (fs : FileSystem) (path : FilePath) : Bool :=
  match fs.entry? path with
  | some .directory => true
  | _ => false

/-- Whether a file is found at a path. A library is a file. -/
def isFile (fs : FileSystem) (path : FilePath) : Bool :=
  match fs.entry? path with
  | some (.file _) => true
  | some (.library _) => true
  | _ => false

/-- The text of a file; a library is not text. -/
def readText? (fs : FileSystem) (path : FilePath) : Option String :=
  match fs.entry? path with
  | some (.file bytes) => (Text.ofUtf8 bytes).toOption
  | _ => none

def loadOverrides (fs : FileSystem) (path : FilePath) : Except NamingError Overrides :=
  match fs.entry? path with
  | some (.library l) =>
    match l.overrides with
    | .ok o => .ok o
    | .error e => .error (.library path e)
  | some _ => .error (.library path .notLibrary)
  | none => .error (.library path .unresolved)

end FileSystem

end ReleaseNames
