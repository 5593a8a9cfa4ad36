import GraphIngest.Loader.Config
import GraphIngest.Validation

/-!
# Exports of a model

The loader configuration of a model needs the user's statements, which may stand in files: those
that run before loading are read first. A model that did not come from a history is validated before
it is exported.
-/

namespace GraphIngest

/-- Why a model cannot be exported. -/
inductive ExportError where
  | ingestCode (cause : IngestCodeError)
  | undeclaredEndpoint (cause : Cypher.UndeclaredEndpoint)
  | unvalidated (violations : List Violation)
  deriving DecidableEq, Repr

namespace ExportError

/-- The message about a model that cannot be exported. -/
def message : ExportError → String
  | ingestCode cause => cause.message
  | undeclaredEndpoint cause => cause.message
  | unvalidated violations =>
    "Refusing to export an unvalidated model (" ++ toString violations.length ++
      " violation(s)): " ++ ((violations.map (·.message)).headD "")

/-- The error lies in what the caller asked for and not in the model. -/
def isConfiguration : ExportError → Bool
  | ingestCode _ | unvalidated _ => true
  | undeclaredEndpoint _ => false

end ExportError

namespace Model

/-- Validates a model that never went through a history. -/
def candidate (m : Model) (a : AllowedColumns) : Except ExportError AcceptedModel :=
  match accept m a with
  | .ok v => .ok v
  | .error violations => .error (.unvalidated violations)

/-- The script that loads a model. -/
def script (m : Model) (strategy : Strategy) (sizes : BatchSizes) : Except ExportError String :=
  match Cypher.ingestionScript m strategy sizes with
  | .ok s => .ok s
  | .error e => .error (.undeclaredEndpoint e)

/-- The loader configuration of a model. -/
def loaderConfig {m : Type → Type} [Monad m] [FileAccess m] (model : Model) (strategy : Strategy)
    (options : LoaderOptions) : m (Except ExportError LoaderConfig) := do
  match ← IngestCode.optionStatements options.preIngest with
  | .error e => return .error (.ingestCode e)
  | .ok before =>
    match ← IngestCode.optionStatements options.postIngest with
    | .error e => return .error (.ingestCode e)
    | .ok after =>
      match LoaderConfig.ofModel model strategy options before after with
      | .ok c => return .ok c
      | .error e => return .error (.undeclaredEndpoint e)

end Model

end GraphIngest
