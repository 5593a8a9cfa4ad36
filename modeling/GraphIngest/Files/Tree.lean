import GraphIngest.Files.Access
import GraphIngest.Text.Lines

/-!
# File trees

A file system as a value: files and directories, each under the list of its names from the root. A
path begins at the root or at the working directory and is walked name by name, so that `a/../b`
needs the directory `a`. There are no links, so a place has one list of names.

Replacing a file is not one step: its content is gone before the new one is written. So a write that
fails may leave the file cut, and directories that were made before a failure stay.
-/

namespace GraphIngest

/-- What stands at a place of a file tree. -/
inductive FileContent where
  | directory
  | file (bytes : List UInt8)
  deriving DecidableEq, Repr

/-- How writing at a place fails. -/
inductive WriteFault where
  /-- Nothing is opened or made there. -/
  | refused (cause : FileError)
  /-- There is room for so many bytes, and longer contents are cut behind them. -/
  | full (room : Nat) (cause : FileError)
  deriving DecidableEq, Repr

/-- The cause that a fault is reported with. -/
def WriteFault.cause : WriteFault → FileError
  | refused cause => cause
  | full _ cause => cause

/-- The files and directories of a file system, and the faults of its places. -/
structure FileTree where
  entries : List (List String × FileContent)
  /-- The directory that paths begin at unless they begin with a slash. -/
  workingDirectory : List String := []
  faults : List (List String × WriteFault) := []
  deriving DecidableEq, Repr, Inhabited

namespace FileTree

/-- The names of a path; an empty name stands for a slash that is doubled or at an end. -/
def pathNames (path : String) : List String :=
  (Text.segments '/' path.toList).map String.ofList

/-- What stands at a place; the working directory and what it stands in are directories. -/
def content? (t : FileTree) (place : List String) : Option FileContent :=
  if place <+: t.workingDirectory then some .directory
  else (t.entries.find? (·.1 == place)).map (·.2)

/-- The fault of a place. -/
def fault? (t : FileTree) (place : List String) : Option WriteFault :=
  (t.faults.find? (·.1 == place)).map (·.2)

/-- The place that a name leads to from a directory; there is nothing above the root. -/
def stepFrom (place : List String) (name : String) : List String :=
  if name = "" ∨ name = "." then place
  else if name = ".." then place.dropLast
  else place ++ [name]

/-- Walks names from a place; every place that is left for another one has to be a directory. -/
def walk (t : FileTree) : List String → List String → Except FileError (List String)
  | place, [] => .ok place
  | place, name :: names =>
    match t.content? place with
    | some .directory => walk t (stepFrom place name) names
    | some (.file _) => .error .notDirectory
    | none => .error .notFound

/-- A path that begins at the root. -/
def isAbsolute (path : String) : Bool := path.toList.head? == some '/'

/-- A path with a slash at its end can only mean a directory. -/
def endsInSlash (path : String) : Bool := path.toList.getLast? == some '/'

/-- The place that a path begins at. -/
def origin (t : FileTree) (path : String) : List String :=
  if isAbsolute path then [] else t.workingDirectory

/-- The place of a path. The empty path has no place. -/
def resolve (t : FileTree) (path : String) : Except FileError (List String) :=
  if path = "" then .error .notFound else t.walk (t.origin path) (pathNames path)

/-- The bytes of a file. -/
def readBytes (t : FileTree) (path : String) : Except FileError (List UInt8) := do
  match t.content? (← t.resolve path) with
  | some (.file bytes) => return bytes
  | some .directory => throw .isDirectory
  | none => throw .notFound

/-- The text of bytes. -/
def decodeText (bytes : List UInt8) : Except FileError String :=
  match String.fromUTF8? ⟨bytes.toArray⟩ with
  | some s => .ok s
  | none => .error .notText

/-- The text of a file. -/
def readText (t : FileTree) (path : String) : Except FileError String := do
  decodeText (← t.readBytes path)

/-- A file or directory is there. -/
def pathExists (t : FileTree) (path : String) : Bool :=
  match t.resolve path with
  | .ok place => (t.content? place).isSome
  | .error _ => false

/-- Puts a content in its place. -/
def put (t : FileTree) (place : List String) (content : FileContent) : FileTree :=
  { t with entries := (place, content) :: t.entries.filter (·.1 != place) }

/-- Makes the directories of a list of names, one below the other, up to the first that fails. -/
def makeDirectories (t : FileTree) : List String → List String → Except FileError Unit × FileTree
  | _, [] => (.ok (), t)
  | place, name :: names =>
    let next := stepFrom place name
    match t.content? next with
    | some .directory => makeDirectories t next names
    | some (.file _) =>
      (.error (if names.all (fun n => n = "" ∨ n = ".") then .alreadyExists else .notDirectory), t)
    | none => match t.fault? next with
      | some fault => (.error fault.cause, t)
      | none => makeDirectories (t.put next .directory) next names

/-- The names of a path less the last one that counts. -/
def parentNames (path : String) : List String :=
  (((pathNames path).reverse.dropWhile fun n => n = "" ∨ n = ".").drop 1).reverse

/-- Makes the directory that a file stands in. -/
def makeParents (t : FileTree) (path : String) : Except FileError Unit × FileTree :=
  t.makeDirectories (t.origin path) (parentNames path)

/-- The place that a file would be written to. -/
def target (t : FileTree) (path : String) : Except FileError (List String) :=
  if endsInSlash path then do
    let names := ((pathNames path).reverse.dropWhile (· = "")).reverse
    let _ ← t.walk (t.origin path) names
    throw .isDirectory
  else t.resolve path

/-- Writes the file of a place, as far as its fault lets it. -/
def store (t : FileTree) (place : List String) (bytes : List UInt8) :
    Except FileError Unit × FileTree :=
  match t.fault? place with
  | none => (.ok (), t.put place (.file bytes))
  | some (.refused cause) => (.error cause, t)
  | some (.full room cause) =>
    if bytes.length ≤ room then (.ok (), t.put place (.file bytes))
    else (.error cause, t.put place (.file (bytes.take room)))

/-- Replaces the content of a file, or makes it. -/
def writeBytes (t : FileTree) (path : String) (bytes : List UInt8) :
    Except FileError Unit × FileTree :=
  match t.target path with
  | .error e => (.error e, t)
  | .ok place =>
    match t.content? place, t.content? place.dropLast with
    | some .directory, _ => (.error .isDirectory, t)
    | some (.file _), _ => t.store place bytes
    | none, some .directory => t.store place bytes
    | none, some (.file _) => (.error .notDirectory, t)
    | none, none => (.error .notFound, t)

/-- The bytes of a text. -/
def encodeText (s : String) : List UInt8 := s.toUTF8.toList

/-- Replaces the text of a file, or makes it. -/
def writeText (t : FileTree) (path text : String) : Except FileError Unit × FileTree :=
  t.writeBytes path (encodeText text)

end FileTree

end GraphIngest
