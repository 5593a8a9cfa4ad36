import GraphIngest.Clock
import GraphIngest.CommandLine.Error
import GraphIngest.Diagram
import GraphIngest.Loader.ConfigText

/-!
# Models in files

Reading models and columns, appending models to a history, and rendering a version. `appendModels`
stops at the first model that is not accepted; the models before it stay appended.
-/

namespace GraphIngest

variable {m : Type → Type} [Monad m] [FileAccess m]

/-- The model of a text. -/
def Model.ofText (s : String) : Except ModelFileFault Model :=
  match Document.ofText s with
  | .error f => .error (.json f)
  | .ok d => match d.build with
    | .error issues => .error (.construction issues)
    | .ok model => .ok model

namespace CommandLine

/-- Reads the text of a file. -/
def readFile (path : String) : m (Except CommandError String) := do
  match ← FileAccess.readText path with
  | .ok s => return .ok s
  | .error e => return .error (.unreadable path e)

/-- Reads the columns of a file. -/
def readColumns (path : String) : m (Except CommandError AllowedColumns) := do
  match ← readFile path with
  | .error e => return .error e
  | .ok s => match AllowedColumns.ofText s with
    | .ok a => return .ok a
    | .error f => return .error (.malformedColumns path f)

/-- Reads the model of a file. -/
def readModel (path : String) : m (Except CommandError Model) := do
  match ← readFile path with
  | .error e => return .error e
  | .ok s => match Model.ofText s with
    | .ok model => return .ok model
    | .error f => return .error (.invalidModel path f)

/-- Reads and accepts the model of a file. -/
def readAccepted (path : String) (a : AllowedColumns) : m (Except CommandError AcceptedModel) := do
  match ← readModel path with
  | .error e => return .error e
  | .ok model => match accept model a with
    | .ok v => return .ok v
    | .error violations => return .error (.rejected path violations)

/-- Appends the models of files up to the first one that is not accepted, each at its own time. -/
def appendFiles [Clock m] (a : AllowedColumns) :
    List String → History → m (Except CommandError Unit × History)
  | [], h => return (.ok (), h)
  | path :: paths, h => do
    match ← readAccepted path a with
    | .error e => return (.error e, h)
    | .ok v => appendFiles a paths (h.append (← Clock.now) v)

/-- Appends the models of files; without a file no columns are needed. -/
def appendModels [Clock m] (h : History) (paths : List String)
    (columns? : Option AllowedColumns) : m (Except CommandError Unit × History) :=
  match paths, columns? with
  | [], _ => return (.ok (), h)
  | _ :: _, none => return (.error .columnsMissing, h)
  | paths, some a => appendFiles a paths h

/-- What can be made of a version. -/
inductive Rendition where
  | constraints
  | script
  | loaderConfig
  | document
  | diagram
  deriving DecidableEq, Repr

/-- Renders a model. -/
def renderModel (rendition : Rendition) (model : Model) (strategy : Strategy)
    (options : LoaderOptions) : m (Except ExportError String) :=
  match rendition with
  | .constraints => return .ok (Cypher.constraints model)
  | .script => return model.script strategy options.batchSizes
  | .loaderConfig => do return (← model.loaderConfig strategy options).map (·.yamlText)
  | .document => return .ok model.document.prettyText
  | .diagram => return .ok ((Diagram.ofModel model).toJson.pretty ++ "\n")

/-- Renders a version of a history. -/
def render (rendition : Rendition) (h : History) (version : Int) (strategy : Strategy)
    (options : LoaderOptions) : m (Except CommandError String) :=
  match h.get version with
  | .error e => return .error (.version e)
  | .ok snapshot => do
    match ← renderModel rendition snapshot.model strategy options with
    | .ok s => return .ok s
    | .error e => return .error (.unexportable e)

end CommandLine

end GraphIngest
