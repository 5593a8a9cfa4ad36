import GraphIngest.CommandLine.Run
import GraphIngest.Files.Tree
import Std.Time.Format

/-!
# The program

The command line on the file system, with the environment, the clock and random numbers of the
running system. Nothing is decided here.
-/

namespace GraphIngest

/-- The cause of a failed file operation. -/
def FileError.ofSystem : IO.Error → FileError
  | .noFileOrDirectory .. | .noSuchThing .. => .notFound
  | .alreadyExists .. => .alreadyExists
  | .inappropriateType _ code details =>
    if code = 21 then .isDirectory else if code = 20 then .notDirectory else .other details
  | e => .other e.toString

/-- Runs a file operation and keeps its failure. -/
def attemptFile {α : Type} (act : IO α) : IO (Except FileError α) := do
  try
    return .ok (← act)
  catch e =>
    return .error (FileError.ofSystem e)

instance : FileAccess IO where
  readText path := do
    match ← attemptFile (IO.FS.readBinFile path) with
    | .error e => return .error e
    | .ok bytes => match String.fromUTF8? bytes with
      | some s => return .ok s
      | none => return .error .notText
  pathExists path := do
    match ← attemptFile (IO.FS.Handle.mk path .read) with
    | .ok _ => return true
    | .error _ => return false
  makeParents path := attemptFile do
    let parent := "/".intercalate (FileTree.parentNames path)
    if parent != "" then IO.FS.createDirAll parent
  writeText path text := attemptFile (IO.FS.writeFile path text)

instance : Clock IO where
  now := do
    let now ← Std.Time.Timestamp.now
    return Timestamp.ofSeconds now.val.second.val.toNat now.val.nano.val.toNat

namespace CommandLine

/-- The names and values of an environment whose entries end in a null character. -/
def environmentOfText (s : String) : List (String × String) :=
  (s.splitOn "\x00").filterMap fun entry =>
    match entry.splitOn "=" with
    | name :: value :: values => some (name, "=".intercalate (value :: values))
    | _ => none

/-- Reads the environment of the running program. -/
def readEnvironment : IO (List (String × String)) := do
  match ← FileAccess.readText (m := IO) "/proc/self/environ" with
  | .ok s => return environmentOfText s
  | .error _ => return []

/-- The number of a random session. -/
def randomSession : IO SessionId := do
  let bits ← IO.getRandomBytes 16
  return .ofRandomBits (bits.toList.foldl (fun n b => n * 256 + b.toNat) 0)

end CommandLine

end GraphIngest

/-- Runs the command line. -/
def main (arguments : List String) : IO UInt32 := do
  let report ← GraphIngest.CommandLine.run (← GraphIngest.CommandLine.randomSession)
    (← GraphIngest.CommandLine.readEnvironment) arguments
  (← IO.getStdout).putStr report.output
  (← IO.getStderr).putStr report.errors
  return report.exitCode.toUInt32

