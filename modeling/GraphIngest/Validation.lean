import GraphIngest.Model.Construction
import GraphIngest.Columns

/-!
# Validating a model against the allowed columns

`validate` lists every rule that a model breaks: first for each node in declaration order, then for
each relationship, then the constraint names that two entities share. A model without violations is
accepted together with the columns it was validated against.
-/

namespace GraphIngest

/-- An end of a relationship. -/
inductive EndpointRole where
  | source
  | target
  deriving DecidableEq, Repr, Inhabited

/-- The word for an end of a relationship. -/
def EndpointRole.text : EndpointRole → String
  | .source => "source"
  | .target => "target"

/-- A rule that a model breaks. -/
inductive Violation where
  /-- A property is mapped to a column that its source does not have. -/
  | columnMissing (entity : EntityRef) (property column source : String)
  /-- A unique property is mapped to such a column; reported next to `columnMissing`. -/
  | uniqueColumnMissing (entity : EntityRef) (property column source : String)
  /-- A node has no unique property. -/
  | missingNodeKey (label : String)
  /-- Unique properties of two entities have one constraint name. -/
  | nameCollision (constraint property : String) (first second : EntityRef)
  /-- A relationship ends at a label that no node declares. -/
  | unknownEndpoint (type : String) (role : EndpointRole) (label : String)
  /-- The key of an endpoint cannot be read from the file of the relationship. -/
  | endpointKeyMissing (type label property column source : String)
  /-- An entity is loaded from a file that is not listed. -/
  | unknownSource (entity : EntityRef) (source : String)
  deriving DecidableEq, Repr

namespace Violation

/-- The name of the entity that a violation is reported against. -/
def entityName : Violation → String
  | columnMissing entity .. | uniqueColumnMissing entity .. | unknownSource entity _ => entity.name
  | nameCollision _ _ _ second => second.name
  | missingNodeKey label => label
  | unknownEndpoint type .. | endpointKeyMissing type .. => type

/-- The message about a violation. -/
def message : Violation → String
  | columnMissing entity property column source =>
    entity.text ++ ": property `" ++ property ++ "` maps to column `" ++ column ++
      "`, which is not among the allowed columns of `" ++ source ++ "`"
  | uniqueColumnMissing entity property column source =>
    entity.text ++ ": unique property `" ++ property ++ "` maps to column `" ++ column ++
      "`, which is not among the allowed columns of `" ++ source ++ "`"
  | missingNodeKey label =>
    "Node " ++ label ++ ": no unique property; every node needs a node key"
  | nameCollision constraint property first second =>
    second.text ++ ": unique property `" ++ property ++ "` reuses constraint name `" ++
      constraint ++ "` already taken by " ++ first.text
  | unknownEndpoint type role label =>
    "Relationship " ++ type ++ ": " ++ role.text ++ " label `" ++ label ++
      "` is not a declared node"
  | endpointKeyMissing type label property column source =>
    "Relationship " ++ type ++ ": key `" ++ label ++ "." ++ property ++
      "` is read from column `" ++ column ++ "`, which `" ++ source ++
      "` does not have (set csv_mapping_other)"
  | unknownSource entity source =>
    entity.text ++ ": source file `" ++ source ++ "` is not in the column mapping"

end Violation

/-- The violations of one property's mapping. -/
def columnViolations (a : AllowedColumns) (e : Entity) (p : Property) : List Violation :=
  if a.contains e.sourceName p.column then []
  else
    .columnMissing e.ref p.name p.column e.sourceName ::
      if p.isUnique then [.uniqueColumnMissing e.ref p.name p.column e.sourceName] else []

/-- The violations of the source and the mappings of an entity. -/
def mappingViolations (a : AllowedColumns) (e : Entity) : List Violation :=
  (if (a.scope e.sourceName).isNone then [.unknownSource e.ref e.sourceName] else []) ++
  e.properties.flatMap (columnViolations a e)

/-- The violations of a node alone. -/
def nodeViolations (a : AllowedColumns) (n : Node) : List Violation :=
  mappingViolations a (.node n) ++
  if (Entity.node n).keyNames.isEmpty then [.missingNodeKey n.label] else []

/-- The key properties of an endpoint node that the file of a relationship does not have. -/
def endpointKeyViolations (a : AllowedColumns) (r : Relationship) (label : String) (n : Node) :
    List Violation :=
  (Entity.node n).uniqueProperties.filterMap fun p =>
    let column := p.columnFor n.sourceName r.sourceName
    if a.contains r.sourceName column then none
    else some (.endpointKeyMissing r.type label p.name column r.sourceName)

/-- The violations of one end of a relationship. The key of a node in the relationship's own file
was checked with the node, and an unknown file has been reported. -/
def endpointViolations (m : Model) (a : AllowedColumns) (r : Relationship) (role : EndpointRole)
    (label : String) : List Violation :=
  match m.node? label with
  | none => [.unknownEndpoint r.type role label]
  | some n =>
    if SourceFile.same n.sourceName r.sourceName || (a.scope r.sourceName).isNone then []
    else endpointKeyViolations a r label n

/-- The violations of a relationship alone. -/
def relationshipViolations (m : Model) (a : AllowedColumns) (r : Relationship) :
    List Violation :=
  mappingViolations a (.relationship r) ++ endpointViolations m a r .source r.source ++
  endpointViolations m a r .target r.target

/-- A constraint name with the position and the name of the entity that took it first. -/
structure TakenName where
  name : String
  owner : Nat
  entity : EntityRef

/-- The collisions of the keys of an entity with names taken before; returns all taken names. -/
def keyCollisions (position : Nat) (e : Entity) :
    List TakenName → List String → List Violation × List TakenName
  | taken, [] => ([], taken)
  | taken, property :: rest =>
    let name := constraintName e.name property
    match taken.find? (·.name == name) with
    | some t =>
      let (vs, taken) := keyCollisions position e taken rest
      (if t.owner = position then vs else .nameCollision name property t.entity e.ref :: vs, taken)
    | none => keyCollisions position e (⟨name, position, e.ref⟩ :: taken) rest

/-- The collisions of the constraint names of entities, from a position on. -/
def collisions : Nat → List TakenName → List Entity → List Violation
  | _, _, [] => []
  | position, taken, e :: es =>
    let (vs, taken) := keyCollisions position e taken e.keyNames
    vs ++ collisions (position + 1) taken es

/-- Every rule that a model breaks. -/
def validate (m : Model) (a : AllowedColumns) : List Violation :=
  m.nodes.flatMap (nodeViolations a) ++ m.relationships.flatMap (relationshipViolations m a) ++
  collisions 0 [] m.entities

/-- A model without violations, with the columns it was validated against. -/
structure AcceptedModel where
  model : Model
  columns : AllowedColumns
  valid : validate model columns = []

/-- Accepts a model, or lists the rules that it breaks. -/
def accept (m : Model) (a : AllowedColumns) : Except (List Violation) AcceptedModel :=
  if h : validate m a = [] then .ok ⟨m, a, h⟩ else .error (validate m a)

theorem accept_eq_ok_iff {m : Model} {a : AllowedColumns} {v : AcceptedModel} :
    accept m a = .ok v ↔ v.model = m ∧ v.columns = a := by
  constructor
  · intro h
    unfold accept at h
    split at h
    · cases h; exact ⟨rfl, rfl⟩
    · cases h
  · obtain ⟨m', a', h⟩ := v
    rintro ⟨rfl, rfl⟩
    simp [accept, h]

theorem accept_eq_error_iff {m : Model} {a : AllowedColumns} {vs : List Violation} :
    accept m a = .error vs ↔ vs ≠ [] ∧ validate m a = vs := by
  unfold accept
  split
  · next h => simp [h, eq_comm]
  · next h =>
    constructor
    · intro e; cases e; exact ⟨h, rfl⟩
    · rintro ⟨-, rfl⟩; rfl

end GraphIngest
