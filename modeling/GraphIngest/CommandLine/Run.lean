import GraphIngest.CommandLine.Arguments
import GraphIngest.CommandLine.Drafts

/-!
# Running a command line

A run loads the settings, does what the command asks for, and leaves behind what it printed and its
exit code. The history is saved before anything is rendered, and only if models were appended to it;
a run that fails before that leaves the file of the history as it was.
-/

namespace GraphIngest.CommandLine

/-- What a run leaves behind, besides files. -/
structure RunReport where
  exitCode : Nat
  output : String
  errors : String
  deriving DecidableEq, Repr

namespace RunReport

/-- How a command line is written. -/
def usage : String :=
  "Usage: runway [--config NAME] [--json] COMMAND\n\n" ++
  "  validate --model FILE --columns FILE\n" ++
  "  constraints | script | loader-config | document | diagram\n" ++
  "      [--model FILE]... [--columns FILE] [--version N] [--strategy NAME] [--history FILE]\n" ++
  "  refine --draft FILE... --columns FILE [--max-retries N] [--history FILE]\n"

/-- The report of words that are no command line. -/
def misuse : RunReport := ⟨2, "", usage⟩

/-- The report of a result. -/
def ofResult : Except CommandError String → RunReport
  | .ok output => ⟨0, output, ""⟩
  | .error e => ⟨1, e.output, e.report⟩

end RunReport

variable {m : Type → Type} [Monad m] [FileAccess m] [Clock m]

/-- Goes on with the result of a step, or fails for the reason of the step. -/
def step {ε α : Type} (reason : ε → CommandError) (x : m (Except ε α)) :
    ExceptT CommandError m α := ExceptT.mk do
  match ← x with
  | .ok a => return .ok a
  | .error e => return .error (reason e)

/-- Validates the model of a file; the result is empty. -/
def validateFile (model columns : String) : ExceptT CommandError m String := do
  let model ← step id (readModel model)
  let a ← step id (readColumns columns)
  match validate model a with
  | [] => return ""
  | violations => throw (.violated violations)

/-- The strategy of a name, or the one of the settings. -/
def chooseStrategy (s : Settings) : Option String → Except CommandError Strategy
  | none => .ok s.strategy
  | some name => match Strategy.ofName? name with
    | some strategy => .ok strategy
    | none => .error (.unsupportedStrategy name)

/-- Reads the columns of a file that may not be given. -/
def readOptionalColumns : Option String → m (Except CommandError (Option AllowedColumns))
  | none => return .ok none
  | some path => do return (← readColumns path).map some

/-- Saves a history, if there is a file for it. -/
def saveHistory (h : History) : Option String → m (Except StorageError Unit)
  | none => return .ok ()
  | some path => h.save path

/-- Appends models to the history and renders a version of it. -/
def renderVersion (s : Settings) (rendition : Rendition) (a : RenderArguments) :
    ExceptT CommandError m String := do
  let strategy ← step id (pure (chooseStrategy s a.strategy?))
  let columns? ← step id (readOptionalColumns a.columns?)
  let historyPath := a.history?.or s.historyPath
  let h ← step .storage (History.openAt historyPath)
  let (appended, h) ← ExceptT.lift (appendModels h a.models columns?)
  step id (pure appended)
  if !a.models.isEmpty then step .storage (saveHistory h historyPath)
  step id (render rendition h a.version strategy s.options)

/-- The message about an accepted draft. -/
def acceptedMessage (a : Accepted) : String :=
  "Accepted as version " ++ toString a.version ++ " after " ++ toString a.corrections ++
    " correction(s) (session " ++ a.session.text ++ ")\n"

/-- Refines drafts in a session and saves the history with the accepted one. -/
def refineFiles (session : SessionId) (s : Settings) (a : RefineArguments) :
    ExceptT CommandError m String := do
  let columns ← step id (readColumns a.columns)
  let historyPath := a.history?.or s.historyPath
  let h ← step .storage (History.openAt historyPath)
  let result ← ExceptT.lift
    (refineDrafts session a.drafts columns (a.maxRetries?.getD s.maxRetries) h)
  let accepted ← step .refinement (pure result.outcome)
  step .storage (saveHistory result.history historyPath)
  return acceptedMessage accepted

/-- Runs a command under settings; the session is the one of a refinement. -/
def runCommand (session : SessionId) (s : Settings) : Command → ExceptT CommandError m String
  | .validate model columns => validateFile model columns
  | .render rendition arguments => renderVersion s rendition arguments
  | .refine arguments => refineFiles session s arguments

/-- Runs a command line. -/
def Invocation.run (i : Invocation) (session : SessionId) (environment : List (String × String)) :
    ExceptT CommandError m String := do
  let s ← step .settings (Settings.load i.settingsName environment)
  runCommand session s i.command

/-- Runs the words of a command line. -/
def run (session : SessionId) (environment : List (String × String)) (words : List String) :
    m RunReport :=
  match Invocation.ofWords? words with
  | none => return .misuse
  | some i => do return .ofResult (← (i.run session environment).run)

end GraphIngest.CommandLine
