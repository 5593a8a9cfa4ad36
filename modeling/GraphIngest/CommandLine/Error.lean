import GraphIngest.Exporter
import GraphIngest.History.Storage
import GraphIngest.Refinement.Session
import GraphIngest.Settings

/-!
# Errors of the command line

An error has a message and perhaps causes, from the nearest one to the first one. It is reported
with all of them; the violations of a model are listed besides.
-/

namespace GraphIngest

/-- Why a file holds no model. -/
inductive ModelFileFault where
  | json (fault : Json.Fault)
  | construction (issues : List ConstructionIssue)
  deriving DecidableEq, Repr

namespace ModelFileFault

/-- The message about a file without a model. -/
def message : ModelFileFault → String
  | json fault => "Serialization error: " ++ fault.message
  | construction issues => ConstructionIssue.summary issues

/-- The causes of the fault, itself left out. -/
def causes : ModelFileFault → List String
  | json fault => [fault.message]
  | construction _ => []

end ModelFileFault

/-- Why a command failed. -/
inductive CommandError where
  | settings (cause : SettingsError)
  | unreadable (path : String) (cause : FileError)
  | malformedColumns (path : String) (fault : Json.Fault)
  | invalidModel (path : String) (cause : ModelFileFault)
  /-- A model of a file was not accepted. -/
  | rejected (path : String) (violations : List Violation)
  /-- The model that was to be validated has violations. -/
  | violated (violations : List Violation)
  | columnsMissing
  | unsupportedStrategy (name : String)
  | storage (cause : StorageError)
  | version (cause : VersionOutOfRange)
  | unexportable (cause : ExportError)
  | refinement (cause : RefineError)
  deriving DecidableEq, Repr

namespace CommandError

/-- A count of violations in the words of a message. -/
def violationCount (violations : List Violation) : String :=
  toString violations.length ++ " schema violation(s)"

/-- The message about a command that failed. -/
def message : CommandError → String
  | settings cause => cause.message
  | unreadable path cause => "Cannot read " ++ path ++ ": " ++ cause.message
  | malformedColumns path fault => "Invalid JSON in " ++ path ++ ": " ++ fault.message
  | invalidModel path cause => path ++ " is not a valid model: " ++ cause.message
  | rejected path violations => path ++ " has " ++ violationCount violations
  | violated violations => violationCount violations
  | columnsMissing => "--columns is required with --model"
  | unsupportedStrategy name => Strategy.unsupportedMessage name
  | storage cause => cause.message
  | version cause => cause.message
  | unexportable cause => cause.message
  | refinement cause => cause.message

/-- The causes of an error, the nearest one first. -/
def causes : CommandError → List String
  | unreadable _ cause => [cause.message]
  | malformedColumns _ fault => [fault.message]
  | invalidModel _ cause => cause.message :: cause.causes
  | storage (.file cause) => [cause.message]
  | storage (.json fault) => [fault.message]
  | _ => []

/-- A line for each violation. -/
def violationLines (violations : List Violation) : String :=
  String.join (violations.map fun v => v.message ++ "\n")

/-- What a failed command has printed as its result. -/
def output : CommandError → String
  | violated violations => violationLines violations
  | _ => ""

/-- A text whose lines after the first one are indented. -/
def hanging (indent s : String) : String :=
  ("\n" ++ indent).intercalate (s.splitOn "\n")

/-- The lines of causes with their numbers. -/
def numberedCauses (causes : List String) : List String :=
  causes.mapIdx fun i cause =>
    let number := toString i
    String.ofList (List.replicate (5 - number.length) ' ') ++ number ++ ": " ++
      hanging "       " cause

/-- The lines of causes; more than one are numbered. -/
def causeLines : List String → List String
  | [cause] => ["    " ++ hanging "    " cause]
  | causes => numberedCauses causes

/-- The report of an error, with its causes and the violations of a rejected model. -/
def report (e : CommandError) : String :=
  let listed := match e with
    | rejected _ violations => violationLines violations
    | _ => ""
  let causes := match e.causes with
    | [] => ""
    | causes => "\n\nCaused by:\n" ++ "\n".intercalate (causeLines causes)
  listed ++ "Error: " ++ e.message ++ causes ++ "\n"

end CommandError

end GraphIngest
