import GraphIngest.Files.Access
import GraphIngest.History

/-!
# Histories in files

A history is saved as a whole, in directories that are made for it, and read back with all checks.
-/

namespace GraphIngest

/-- Why a history cannot be read from a file, or written to one. -/
inductive StorageError where
  | file (cause : FileError)
  | json (fault : Json.Fault)
  | corrupt (cause : Corruption)
  deriving DecidableEq, Repr

/-- The message about a file without a history. -/
def StorageError.message : StorageError → String
  | .file cause => "IO error: " ++ cause.message
  | .json fault => "Serialization error: " ++ fault.message
  | .corrupt cause => cause.message

namespace History

variable {m : Type → Type} [Monad m] [FileAccess m]

/-- Saves a history to a file. -/
def save (h : History) (path : String) : m (Except StorageError Unit) := do
  match ← FileAccess.makeParents path with
  | .error e => return .error (.file e)
  | .ok () =>
    match ← FileAccess.writeText path h.text with
    | .error e => return .error (.file e)
    | .ok () => return .ok ()

/-- Reads a history from a file. -/
def load (path : String) : m (Except StorageError History) := do
  match ← FileAccess.readText path with
  | .error e => return .error (.file e)
  | .ok s =>
    match ofText s with
    | .error (.json f) => return .error (.json f)
    | .error (.corrupt c) => return .error (.corrupt c)
    | .ok h => return .ok h

/-- Reads a history from a file, or starts one when there is no such file yet. -/
def openAt (path? : Option String) : m (Except StorageError History) := do
  match path? with
  | none => return .ok empty
  | some path => if ← FileAccess.pathExists path then load path else return .ok empty

end History

end GraphIngest
