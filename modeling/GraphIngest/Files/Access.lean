/-!
# Access to files

What the library needs of a file system. Logic that reads and writes files is stated over any monad
with this access, so that it runs on the file system itself and is reasoned about on a file tree.
-/

namespace GraphIngest

/-- Why a file operation failed. -/
inductive FileError where
  | notFound
  | isDirectory
  | notDirectory
  | alreadyExists
  | notText
  | other (message : String)
  deriving DecidableEq, Repr

/-- The message about a failed file operation. -/
def FileError.message : FileError → String
  | .notFound => "No such file or directory (os error 2)"
  | .isDirectory => "Is a directory (os error 21)"
  | .notDirectory => "Not a directory (os error 20)"
  | .alreadyExists => "File exists (os error 17)"
  | .notText => "stream did not contain valid UTF-8"
  | .other message => message

/-- Reading and writing text files by their paths. -/
class FileAccess (m : Type → Type) where
  /-- The text of a file. -/
  readText : String → m (Except FileError String)
  /-- A file or directory is there. -/
  pathExists : String → m Bool
  /-- Makes the directory that a file stands in, with the directories above it. -/
  makeParents : String → m (Except FileError Unit)
  /-- Replaces the content of a file, or makes it. -/
  writeText : String → String → m (Except FileError Unit)

end GraphIngest
