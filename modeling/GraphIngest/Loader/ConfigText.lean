import GraphIngest.Loader.Config
import GraphIngest.Yaml.Node
import GraphIngest.Yaml.Plain
import GraphIngest.Yaml.Printer

/-!
# The YAML form of a loader configuration

A configuration is printed as one mapping in block style, and read from a mapping with its fields in
any order. A scalar counts as a text however it is written and tagged. A number is plain, or a
literal block with the tag of an integer; a plain scalar may also say that there is no number.
-/

namespace GraphIngest

open Yaml (isNull magnitude? Tag ScalarStyle)

/-- The members of a step. -/
def LoadFile.yamlMembers (f : LoadFile) : List (String × Yaml) :=
  [("url", .text f.url), ("cql", .text f.statement)] ++
  match f.chunkSize with
  | some n => [("chunk_size", .integer n)]
  | none => []

namespace LoaderConfig

/-- The members of a configuration. -/
def yamlMembers (c : LoaderConfig) : List (String × Yaml) :=
  [("server_uri", .text c.serverUri), ("admin_user", .text c.adminUser),
   ("database", .text c.database), ("basepath", .text c.basePath),
   ("pre_ingest", .texts c.preIngest),
   ("files", .list (c.files.map fun f => .mapping f.yamlMembers)),
   ("post_ingest", .texts c.postIngest)]

/-- The YAML text of a configuration. -/
def yamlText (c : LoaderConfig) : String := Yaml.print c.yamlMembers

end LoaderConfig

namespace YamlDocument

/-- The text of a scalar. -/
def text? (d : YamlDocument) (n : YamlNode) : Option String :=
  match d.target n with
  | .scalar s _ _ => some s
  | _ => none

/-- A tag of the language itself. -/
def isCoreTag (name : String) (tag? : Option Tag) : Bool :=
  tag?.any fun t => t.text == Tag.coreStem ++ name

/-- A natural number of 64 bits, written without a minus sign. -/
def sizeOfText? (s : String) : Option Nat := do
  let n ← magnitude? (match s.toList with
    | '+' :: r => r
    | r => r)
  if n < 2 ^ 64 then some n else none

/-- The number of a scalar that is plain, or a literal block with the tag of an integer. -/
def sizeOfScalar? (s : String) (style : ScalarStyle) (tag? : Option Tag) : Option Nat :=
  if style = .plain || (style = .literal && isCoreTag "int" tag?) then sizeOfText? s else none

/-- Nothing, or a number: a plain scalar says that there is nothing by its text, which it must if
its tag says so. -/
def optionalSize? (d : YamlDocument) (n : YamlNode) : Option (Option Nat) :=
  match d.target n with
  | .scalar s style tag? =>
    let absent := isNull s.toList
    if style = .plain && isCoreTag "null" tag? then if absent && s ≠ "" then some none else none
    else if style = .plain && tag?.isNone && absent then some none
    else (sizeOfScalar? s style tag?).map some
  | _ => none

/-- A list of values; a plain scalar that is empty is the empty list. -/
def list? {α : Type} (decode : YamlDocument → YamlNode → Option α) (d : YamlDocument)
    (n : YamlNode) : Option (List α) :=
  match d.target n with
  | .list items => items.mapM (decode d)
  | .scalar "" .plain _ => some []
  | _ => none

/-- The members of a mapping by their keys, all of them texts. -/
def members? (d : YamlDocument) (n : YamlNode) : Option (List (String × YamlNode)) :=
  match d.target n with
  | .mapping ms => ms.mapM fun (k, v) => (d.text? k).map fun key => (key, v)
  | _ => none

/-- No key that is known stands there twice. -/
def distinctKeys (keys : List String) (ms : List (String × YamlNode)) : Bool :=
  keys.all fun k => (ms.filter (·.1 == k)).length ≤ 1

/-- The decoded value under a key. -/
def value? {α : Type} (d : YamlDocument) (ms : List (String × YamlNode)) (key : String)
    (decode : YamlDocument → YamlNode → Option α) : Option α :=
  (Yaml.valueOf? ms key).bind (decode d)

/-- The decoded value under a key, or a default where the key is missing. -/
def valueOr? {α : Type} (d : YamlDocument) (ms : List (String × YamlNode)) (key : String)
    (decode : YamlDocument → YamlNode → Option α) (default : α) : Option α :=
  match Yaml.valueOf? ms key with
  | some v => decode d v
  | none => some default

end YamlDocument

namespace LoadFile

/-- The keys of a step. -/
def keys : List String := ["url", "cql", "chunk_size"]

/-- The step of a node. -/
def ofYaml? (d : YamlDocument) (n : YamlNode) : Option LoadFile := do
  let ms ← d.members? n
  if !YamlDocument.distinctKeys keys ms then none
  let url ← d.value? ms "url" YamlDocument.text?
  let statement ← d.value? ms "cql" YamlDocument.text?
  let chunkSize ← d.valueOr? ms "chunk_size" YamlDocument.optionalSize? none
  return ⟨url, statement, chunkSize⟩

end LoadFile

namespace LoaderConfig

/-- The keys of a configuration. -/
def keys : List String :=
  ["server_uri", "admin_user", "database", "basepath", "pre_ingest", "files", "post_ingest"]

/-- The configuration of a node. -/
def ofYaml? (d : YamlDocument) (n : YamlNode) : Option LoaderConfig := do
  let ms ← d.members? n
  if !YamlDocument.distinctKeys keys ms then none
  let texts := YamlDocument.list? YamlDocument.text?
  let serverUri ← d.value? ms "server_uri" YamlDocument.text?
  let adminUser ← d.value? ms "admin_user" YamlDocument.text?
  let database ← d.value? ms "database" YamlDocument.text?
  let basePath ← d.value? ms "basepath" YamlDocument.text?
  let preIngest ← d.valueOr? ms "pre_ingest" texts []
  let files ← d.valueOr? ms "files" (YamlDocument.list? LoadFile.ofYaml?) []
  let postIngest ← d.valueOr? ms "post_ingest" texts []
  return ⟨serverUri, adminUser, database, basePath, preIngest, files, postIngest⟩

/-- The configuration that a YAML text holds. -/
def ofYamlText? (s : String) : Option LoaderConfig := do
  let d ← (YamlDocument.ofText .early s).join
  ofYaml? d d.root

end LoaderConfig

end GraphIngest
