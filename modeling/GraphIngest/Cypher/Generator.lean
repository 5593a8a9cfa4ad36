import GraphIngest.Cypher.Format
import GraphIngest.Model.Construction
import GraphIngest.Strategy

/-!
# Generated statements

A node is merged on its key; a relationship finds its two ends by their keys, read from the columns
of its own file, and is merged between them. The other properties are set. Properties keep their
declared order, so a model has one text.

The generator does not validate: it only refuses a relationship whose end is not among its nodes.
-/

namespace GraphIngest.Cypher

/-- A relationship that ends at a label without a node. -/
structure UndeclaredEndpoint where
  type : String
  label : String
  deriving DecidableEq, Repr

/-- The message about a relationship without an end. -/
def UndeclaredEndpoint.message (e : UndeclaredEndpoint) : String :=
  "Relationship " ++ e.type ++ " references undeclared node label " ++ e.label

/-! ## Fragments -/

/-- The constraint on one unique property. -/
def constraintStatement (e : Entity) (property : String) : String :=
  let constraint := identifier (constraintName e.name property)
  match e with
  | .node n =>
    "CREATE CONSTRAINT " ++ constraint ++ " IF NOT EXISTS FOR (n:" ++ identifier n.label ++
      ") REQUIRE n." ++ identifier property ++ " IS UNIQUE"
  | .relationship r =>
    "CREATE CONSTRAINT " ++ constraint ++ " IF NOT EXISTS FOR ()-[r:" ++ identifier r.type ++
      "]-() REQUIRE r." ++ identifier property ++ " IS UNIQUE"

/-- A constraint for each unique property, without terminators. -/
def constraintStatements (e : Entity) : List String := e.keyNames.map (constraintStatement e)

/-- The constraints of an entity, each on a line that ends with a semicolon. -/
def constraintText (e : Entity) : String :=
  String.join ((constraintStatements e).map (· ++ ";\n"))

/-- The key of an entity as a map. -/
def keyMap (e : Entity) : String := propertyMap (ownColumns e.uniqueProperties)

/-- The variable that an entity is bound to. -/
def variableOf : Entity → String
  | .node _ => "n"
  | .relationship _ => "r"

/-- Sets the properties beside the key; nothing when there are none. -/
def setOthers (e : Entity) : String := setClause (variableOf e) (ownColumns e.otherProperties)

/-- A pattern that finds a node by its key. -/
def matchNode (n : Node) : String :=
  "MATCH (n:" ++ identifier n.label ++ " " ++ keyMap (.node n) ++ ")"

/-- The key of an endpoint node with the columns of a relationship's file. -/
def endpointKey (n : Node) (source : String) : List (String × String) :=
  (Entity.node n).uniqueProperties.map fun p => (p.name, p.columnFor n.sourceName source)

/-- A pattern that finds an endpoint node by its key, read from a relationship's file. -/
def matchEndpoint (var : String) (n : Node) (source : String) : String :=
  "MATCH (" ++ var ++ ":" ++ identifier n.label ++ " " ++ propertyMap (endpointKey n source) ++
    ")"

/-- A clause that may be empty, as the lines of a body. -/
def clauseLines (clause : String) : List String := if clause = "" then [] else [clause]

/-- The clauses that load a node. -/
def nodeBody (n : Node) : List String :=
  ("MERGE (n:" ++ identifier n.label ++ " " ++ keyMap (.node n) ++ ")") ::
    clauseLines (setOthers (.node n))

/-- The clause that merges a relationship between its ends. -/
def mergeRelationship (r : Relationship) : String :=
  let key :=
    if (Entity.relationship r).keyNames.isEmpty then "" else " " ++ keyMap (.relationship r)
  "MERGE (source)-[r:" ++ identifier r.type ++ key ++ "]->(target)"

/-- The clauses that load a relationship between two nodes. -/
def relationshipBody (r : Relationship) (source target : Node) : List String :=
  [matchEndpoint "source" source r.sourceName, matchEndpoint "target" target r.sourceName,
    mergeRelationship r] ++ clauseLines (setOthers (.relationship r))

/-- The lines that bind a batch of rows. -/
def rowsHeader : String := "WITH $rows AS rows\nUNWIND rows AS row"

/-- The statement that runs a body for every row. -/
def wrap (strategy : Strategy) (source : String) (batchSize : Nat) (body : List String) : String :=
  let body := "\n".intercalate body
  match strategy with
  | .standard => rowsHeader ++ "\n" ++ body
  | .loadCsv =>
    "LOAD CSV WITH HEADERS FROM " ++ fileLiteral source ++ " AS row\nCALL \x7b\n" ++ indentation ++
      "WITH row\n" ++ indent body ++ "\n\x7d IN TRANSACTIONS OF " ++ toString batchSize ++ " ROWS"

/-! ## Statements of a set of entities -/

/-- The entities to load, and the batch sizes of their transactions. -/
structure Generator where
  nodes : List Node
  relationships : List Relationship
  batchSizes : BatchSizes

namespace Generator

/-- Loads every entity of a model. -/
def ofModel (m : Model) (batchSizes : BatchSizes) : Generator :=
  ⟨m.nodes, m.relationships, batchSizes⟩

/-- The statement that loads a node. -/
def nodeStatement (g : Generator) (strategy : Strategy) (n : Node) : String :=
  wrap strategy n.sourceName g.batchSizes.nodes (nodeBody n)

/-- The node at an end of a relationship. -/
def endpoint (g : Generator) (r : Relationship) (label : String) : Except UndeclaredEndpoint Node :=
  match g.nodes.find? (·.label == label) with
  | some n => .ok n
  | none => .error ⟨r.type, label⟩

/-- The statement that loads a relationship; its source is looked up before its target. -/
def relationshipStatement (g : Generator) (strategy : Strategy) (r : Relationship) :
    Except UndeclaredEndpoint String := do
  let source ← g.endpoint r r.source
  let target ← g.endpoint r r.target
  return wrap strategy r.sourceName g.batchSizes.relationships (relationshipBody r source target)

/-- The constraints of every node, then of every relationship. -/
def constraintStatements (g : Generator) : List String :=
  (g.nodes.map Entity.node ++ g.relationships.map Entity.relationship).flatMap
    Cypher.constraintStatements

/-- A statement for each node. -/
def nodeStatements (g : Generator) (strategy : Strategy) : List String :=
  g.nodes.map (g.nodeStatement strategy)

/-- A statement for each relationship, or the first end that is not declared. -/
def relationshipStatements (g : Generator) (strategy : Strategy) :
    Except UndeclaredEndpoint (List String) :=
  g.relationships.mapM (g.relationshipStatement strategy)

end Generator

/-! ## Text exports of a model -/

/-- The constraints of a model, one a line. -/
def constraints (m : Model) : String := String.join (m.entities.map constraintText)

/-- The script that loads a model: its nodes, then its relationships. -/
def ingestionScript (m : Model) (strategy : Strategy) (batchSizes : BatchSizes) :
    Except UndeclaredEndpoint String := do
  let g := Generator.ofModel m batchSizes
  let relationships ← g.relationshipStatements strategy
  return joinStatements (g.nodeStatements strategy ++ relationships)

end GraphIngest.Cypher
