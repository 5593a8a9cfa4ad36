import GraphIngest.Exporter
import GraphIngest.History

/-!
# What is made of a version

Appending a model gives the number of the version that it becomes. A version is exported as its
model is. It is looked up first, so a version that the history does not have is reported whatever is
to be exported.
-/

namespace GraphIngest

/-- Why a version cannot be exported. -/
inductive VersionExportError where
  | version (cause : VersionOutOfRange)
  | model (cause : ExportError)
  deriving DecidableEq, Repr

namespace VersionExportError

/-- The message about a version that cannot be exported. -/
def message : VersionExportError → String
  | version cause => cause.message
  | model cause => cause.message

/-- The error lies in what the caller asked for and neither in the history nor in the model. -/
def isConfiguration : VersionExportError → Bool
  | version _ => false
  | model cause => cause.isConfiguration

end VersionExportError

namespace History

/-- Appends an accepted model; the number of its version comes first. -/
def appendNumbered (h : History) (now : Timestamp) (v : AcceptedModel) : Nat × History :=
  (h.length + 1, h.append now v)

/-- The model of a version that is to be exported. -/
def exportedModel (h : History) (version : Int) : Except VersionExportError Model :=
  match h.get version with
  | .ok s => .ok s.model
  | .error e => .error (.version e)

/-- The uniqueness constraints of a version. -/
def constraints (h : History) (version : Int) : Except VersionExportError String := do
  return Cypher.constraints (← h.exportedModel version)

/-- The script that loads a version. -/
def script (h : History) (version : Int) (strategy : Strategy) (sizes : BatchSizes) :
    Except VersionExportError String := do
  ((← h.exportedModel version).script strategy sizes).mapError .model

/-- The loader configuration of a version. -/
def loaderConfig {m : Type → Type} [Monad m] [FileAccess m] (h : History) (version : Int)
    (strategy : Strategy) (options : LoaderOptions) :
    m (Except VersionExportError LoaderConfig) :=
  match h.exportedModel version with
  | .error e => return .error e
  | .ok model => do return (← model.loaderConfig strategy options).mapError .model

end History

end GraphIngest
