import GraphIngest.Loader.Config
import GraphIngest.Refinement.Session
import GraphIngest.Settings.Environment
import GraphIngest.Settings.File

/-!
# Settings

What holds unless the command line says otherwise. Settings come from a file, over which the
environment is laid key by key; what neither sets has its default. Unknown keys do not count, and a
value that cannot be taken for what its key asks for makes the settings unusable.
-/

namespace GraphIngest

/-- What holds unless the command line says otherwise. -/
structure Settings where
  strategy : Strategy
  /-- The connection, the batch sizes and the user's statements. -/
  options : LoaderOptions
  /-- The corrections that a refinement may ask for. -/
  maxRetries : Nat
  /-- The file of the history. -/
  historyPath : Option String
  deriving DecidableEq, Repr

/-- Why there are no settings. -/
inductive SettingsError where
  /-- The settings file is not well-formed. -/
  | malformed (path : String)
  /-- A value does not fit its key. -/
  | unfit
  deriving DecidableEq, Repr

/-- The message about settings that cannot be used. -/
def SettingsError.message : SettingsError → String
  | .malformed path => "Config error: " ++ path ++ " is not well-formed"
  | .unfit => "Config error: a value does not fit its key"

namespace Settings

/-- The settings that hold when nothing is set. -/
def default : Settings := ⟨.standard, .default, Refinement.defaultMaxRetries, none⟩

instance : Inhabited Settings := ⟨default⟩

/-- The batch sizes that a value is taken for. -/
def batchSizes? (v : Setting) : Option BatchSizes := do
  let ms ← v.members? ["nodes", "relationships"]
  let nodes ← Setting.valueOr? ms "nodes" Setting.size? BatchSizes.default.nodes
  let relationships ← Setting.valueOr? ms "relationships" Setting.size?
    BatchSizes.default.relationships
  return ⟨nodes, relationships⟩

/-- The options whose connection a value is taken for. -/
def connection? (v : Setting) : Option LoaderOptions := do
  let o := LoaderOptions.default
  let ms ← v.members? ["server_uri", "user", "database", "basepath"]
  let serverUri ← Setting.valueOr? ms "server_uri" Setting.text? o.serverUri
  let user ← Setting.valueOr? ms "user" Setting.text? o.user
  let database ← Setting.valueOr? ms "database" Setting.text? o.database
  let basePath ← Setting.valueOr? ms "basepath" Setting.text? o.basePath
  return { o with serverUri, user, database, basePath }

/-- A statement of a list, which has to be a text. -/
def statement? : Setting → Option String
  | .text s => some s
  | _ => none

/-- The statements that a value is: a text or a list of texts. -/
def ingestCode? : Setting → Option IngestCode
  | .text s => some (.ofText s)
  | .list items => (items.mapM statement?).map .statements
  | _ => none

/-- The settings that the members of a table are taken for. -/
def ofMembers? (ms : List (String × Setting)) : Option Settings := do
  let d := default
  let strategy ← Setting.valueOr? ms "strategy" (Setting.choice? Strategy.known) d.strategy
  let batchSizes ← Setting.valueOr? ms "batch_sizes" batchSizes? d.options.batchSizes
  let connection ← Setting.valueOr? ms "loader" connection? d.options
  let preIngest ← Setting.valueOr? ms "pre_ingest" (Setting.optional? ingestCode?) none
  let postIngest ← Setting.valueOr? ms "post_ingest" (Setting.optional? ingestCode?) none
  let maxRetries ← Setting.valueOr? ms "max_retries" Setting.size? d.maxRetries
  let historyPath ← Setting.valueOr? ms "history_path" (Setting.optional? Setting.text?) none
  return ⟨strategy, { connection with batchSizes, preIngest, postIngest }, maxRetries, historyPath⟩

/-- The settings of a file, with the environment laid over them. -/
def combine (file environment : List (String × Setting)) : Except SettingsError Settings :=
  let merged := ((Setting.table []).assignAll file).assignAll environment
  match ofMembers? merged.tableMembers with
  | some s => .ok s
  | none => .error .unfit

variable {m : Type → Type} [Monad m] [FileAccess m]

/-- Loads the settings of the file that a name stands for, and of the environment. -/
def load (name : String) (environment : List (String × String)) :
    m (Except SettingsError Settings) := do
  let fromEnvironment := Setting.ofEnvironment environment
  match ← SettingsFile.find name with
  | none => return combine [] fromEnvironment
  | some f => match f.members? with
    | some ms => return combine ms fromEnvironment
    | none => return .error (.malformed f.path)

end Settings

end GraphIngest
