import GraphIngest.Cypher.Generator
import GraphIngest.Loader.IngestCode

/-!
# Loader configurations

A loader runs the generated statements from a configuration: the statements before loading, one step
for each node and then each relationship with its source file, and the statements after loading.
Under the standard strategy a step names the size of its batches; otherwise its statement does.
-/

namespace GraphIngest

open Json (Decoder)

/-- One step: a source file and the statement that loads its rows. -/
structure LoadFile where
  url : String
  statement : String
  chunkSize : Option Nat
  deriving DecidableEq, Repr

/-- The description of a whole load. -/
structure LoaderConfig where
  serverUri : String
  adminUser : String
  database : String
  basePath : String
  preIngest : List String
  files : List LoadFile
  postIngest : List String
  deriving DecidableEq, Repr

/-- The connection of a loader and the user's statements. -/
structure LoaderOptions where
  serverUri : String
  user : String
  database : String
  basePath : String
  batchSizes : BatchSizes
  preIngest : Option IngestCode
  postIngest : Option IngestCode
  deriving DecidableEq, Repr

/-- The options of a local database. -/
def LoaderOptions.default : LoaderOptions :=
  ⟨"bolt://localhost:7687", "neo4j", "neo4j", "./", .default, none, none⟩

/-- Decodes options; each may be left out. -/
def LoaderOptions.decoder : Decoder LoaderOptions :=
  Decoder.record "LoaderOptions" default
    [.of "server_uri" .optional .string fun v o => { o with serverUri := v },
     .of "user" .optional .string fun v o => { o with user := v },
     .of "database" .optional .string fun v o => { o with database := v },
     .of "basepath" .optional .string fun v o => { o with basePath := v },
     .of "batch_sizes" .optional BatchSizes.decoder fun v o => { o with batchSizes := v },
     .of "pre_ingest" .optional (.option IngestCode.decoder) fun v o => { o with preIngest := v },
     .of "post_ingest" .optional (.option IngestCode.decoder) fun v o =>
       { o with postIngest := v }]

namespace LoadFile

/-- The JSON form of a step. -/
def toJson (f : LoadFile) : Json :=
  .object (
    [("url", .string f.url), ("cql", .string f.statement)] ++
    match f.chunkSize with
    | some n => [("chunk_size", .nat n)]
    | none => [])

/-- Decodes a step. -/
def decoder : Decoder LoadFile :=
  Decoder.record "LoadFile" ⟨"", "", none⟩
    [.of "url" .required .string fun v f => { f with url := v },
     .of "cql" .required .string fun v f => { f with statement := v },
     .of "chunk_size" .optional (.option .size) fun v f => { f with chunkSize := v }]

end LoadFile

namespace LoaderConfig

/-- What stands for the base path in the address of a file. -/
def basePlaceholder : String := "$BASE"

/-- The address of the staged file of a source. -/
def fileUrl (source : String) : String := basePlaceholder ++ "/" ++ SourceFile.csvName source

/-- The size of the batches of a step, unless its statement sets it. -/
def chunkSizeFor (strategy : Strategy) (size : Nat) : Option Nat :=
  match strategy with
  | .standard => some size
  | .loadCsv => none

/-- The step that loads a node. -/
def nodeFile (g : Cypher.Generator) (strategy : Strategy) (n : Node) : LoadFile :=
  ⟨fileUrl n.sourceName, g.nodeStatement strategy n, chunkSizeFor strategy g.batchSizes.nodes⟩

/-- The step that loads a relationship. -/
def relationshipFile (g : Cypher.Generator) (strategy : Strategy) (r : Relationship) :
    Except Cypher.UndeclaredEndpoint LoadFile := do
  let statement ← g.relationshipStatement strategy r
  return ⟨fileUrl r.sourceName, statement, chunkSizeFor strategy g.batchSizes.relationships⟩

/-- The configuration that loads a model between the user's statements. -/
def ofModel (m : Model) (strategy : Strategy) (options : LoaderOptions)
    (preIngest postIngest : List String) : Except Cypher.UndeclaredEndpoint LoaderConfig := do
  let g := Cypher.Generator.ofModel m options.batchSizes
  let relationships ← m.relationships.mapM (relationshipFile g strategy)
  return {
    serverUri := options.serverUri
    adminUser := options.user
    database := options.database
    basePath := options.basePath
    preIngest := g.constraintStatements ++ preIngest
    files := m.nodes.map (nodeFile g strategy) ++ relationships
    postIngest := postIngest }

/-- The JSON form of a configuration. -/
def toJson (c : LoaderConfig) : Json :=
  .object
    [("server_uri", .string c.serverUri), ("admin_user", .string c.adminUser),
     ("database", .string c.database), ("basepath", .string c.basePath),
     ("pre_ingest", .strings c.preIngest), ("files", .array (c.files.map (·.toJson))),
     ("post_ingest", .strings c.postIngest)]

/-- Decodes a configuration. -/
def decoder : Decoder LoaderConfig :=
  Decoder.record "LoaderConfig" ⟨"", "", "", "", [], [], []⟩
    [.of "server_uri" .required .string fun v c => { c with serverUri := v },
     .of "admin_user" .required .string fun v c => { c with adminUser := v },
     .of "database" .required .string fun v c => { c with database := v },
     .of "basepath" .required .string fun v c => { c with basePath := v },
     .of "pre_ingest" .optional (.list .string) fun v c => { c with preIngest := v },
     .of "files" .optional (.list LoadFile.decoder) fun v c => { c with files := v },
     .of "post_ingest" .optional (.list .string) fun v c => { c with postIngest := v }]

end LoaderConfig

end GraphIngest
