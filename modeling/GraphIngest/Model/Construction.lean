import GraphIngest.Model.Entity
import GraphIngest.Text.Blank

/-!
# Building a model

Declarations list nodes and relationships in any form. A model consists of declarations that are
structurally complete: names, columns and endpoints are not blank, node labels are distinct, and so
are the property names of an entity. `Declarations.issues` lists everything that is missing or
repeated, in declaration order, and `Declarations.build` succeeds exactly when it lists nothing.
-/

namespace GraphIngest

/-- A missing or repeated part of declarations. -/
inductive ConstructionIssue where
  | emptyName (kind : EntityKind)
  | duplicateLabel (label : String)
  | missingEndpoint (type : String)
  | emptyPropertyName (entity : EntityRef)
  | emptyColumn (entity : EntityRef) (property : String)
  | duplicateProperty (entity : EntityRef) (property : String)
  | unknownDiagramNode (id nodeId : String)
  deriving DecidableEq, Repr

/-- The message about an issue. -/
def ConstructionIssue.message : ConstructionIssue → String
  | .emptyName kind => kind.title ++ " is missing its label/type"
  | .duplicateLabel label => "node label " ++ label ++ " is declared more than once"
  | .missingEndpoint type => "relationship " ++ type ++ " is missing a source or target label"
  | .emptyPropertyName entity => entity.text ++ " has a property without a name"
  | .emptyColumn entity property => entity.text ++ " property " ++ property ++ " has no csv_mapping"
  | .duplicateProperty entity property =>
    entity.text ++ " declares property " ++ property ++ " more than once"
  | .unknownDiagramNode id nodeId =>
    "diagram relationship " ++ id ++ " points at unknown diagram node " ++ nodeId

/-- The message about declarations with issues. -/
def ConstructionIssue.summary (issues : List ConstructionIssue) : String :=
  "Structural precondition failed: " ++ "; ".intercalate (issues.map (·.message))

/-- Nodes and relationships that a model is to be built of. -/
structure Declarations where
  nodes : List Node
  relationships : List Relationship
  deriving DecidableEq, Repr, Inhabited

/-- The issues of the properties of an entity; `seen` are the names met so far. -/
def propertyIssues (entity : EntityRef) : List String → List Property → List ConstructionIssue
  | _, [] => []
  | seen, p :: ps =>
    if Text.isBlankText p.name then .emptyPropertyName entity :: propertyIssues entity seen ps
    else
      (if Text.isBlankText p.column then [.emptyColumn entity p.name] else []) ++
      (if seen.contains p.name then [.duplicateProperty entity p.name] else []) ++
      propertyIssues entity (p.name :: seen) ps

/-- The issues of an entity's own properties. -/
def Entity.propertyIssues (e : Entity) : List ConstructionIssue :=
  GraphIngest.propertyIssues e.ref [] e.properties

/-- The issues of nodes; `seen` are the labels met so far. -/
def nodeIssues : List String → List Node → List ConstructionIssue
  | _, [] => []
  | seen, n :: ns =>
    if Text.isBlankText n.label then
      .emptyName .node :: (Entity.node n).propertyIssues ++ nodeIssues seen ns
    else
      (if seen.contains n.label then [.duplicateLabel n.label] else []) ++
      (Entity.node n).propertyIssues ++ nodeIssues (n.label :: seen) ns

/-- The issues of a relationship. -/
def Relationship.issues (r : Relationship) : List ConstructionIssue :=
  (if Text.isBlankText r.type then [.emptyName .relationship] else []) ++
  (if Text.isBlankText r.source || Text.isBlankText r.target then [.missingEndpoint r.type]
    else []) ++
  (Entity.relationship r).propertyIssues

/-- Everything that is missing or repeated in declarations. -/
def Declarations.issues (d : Declarations) : List ConstructionIssue :=
  nodeIssues [] d.nodes ++ d.relationships.flatMap (·.issues)

/-- Declarations without issues. -/
structure Model where
  declared : Declarations
  complete : declared.issues = []
  deriving DecidableEq, Repr

/-- The model of declarations, or everything that stands against them. -/
def Declarations.build (d : Declarations) : Except (List ConstructionIssue) Model :=
  if h : d.issues = [] then .ok ⟨d, h⟩ else .error d.issues

namespace Model

/-- The nodes in their declared order. -/
def nodes (m : Model) : List Node := m.declared.nodes

/-- The relationships in their declared order. -/
def relationships (m : Model) : List Relationship := m.declared.relationships

/-- Every node, then every relationship. -/
def entities (m : Model) : List Entity :=
  m.nodes.map .node ++ m.relationships.map .relationship

/-- The node with a label. -/
def node? (m : Model) (label : String) : Option Node := m.nodes.find? (·.label == label)

end Model

theorem Declarations.build_eq_ok_iff {d : Declarations} {m : Model} :
    d.build = .ok m ↔ m.declared = d := by
  constructor
  · intro h
    unfold build at h
    split at h
    · cases h; rfl
    · cases h
  · rintro rfl
    simp [build, m.complete]

theorem Declarations.build_eq_error_iff {d : Declarations} {issues : List ConstructionIssue} :
    d.build = .error issues ↔ issues ≠ [] ∧ d.issues = issues := by
  unfold build
  split
  · next h => simp [h, eq_comm]
  · next h =>
    constructor
    · intro e; cases e; exact ⟨h, rfl⟩
    · rintro ⟨-, rfl⟩; rfl

end GraphIngest
