import GraphIngest.SourceFile
import GraphIngest.Text.Lowercase

/-!
# Nodes, relationships and their properties

A graph data model declares node labels and relationship types. Each of them carries an ordered list
of properties, and each property names the column of a source file that it is loaded from. The
unique properties of an entity are its key.
-/

namespace GraphIngest

/-- A graph property and the columns it is loaded from. -/
structure Property where
  name : String
  /-- The column in the source file of the property's own entity. -/
  column : String
  /-- The column with the same values in the other source files. -/
  otherColumn : Option String
  type : String
  isUnique : Bool
  deriving DecidableEq, Repr, Inhabited

/-- A node label with its properties. -/
structure Node where
  label : String
  properties : List Property
  /-- The file that the rows are read from. -/
  sourceName : String
  deriving DecidableEq, Repr, Inhabited

/-- A directed relationship type between two node labels. -/
structure Relationship where
  type : String
  properties : List Property
  /-- The label of the start node. -/
  source : String
  /-- The label of the end node. -/
  target : String
  /-- The file that the rows are read from. -/
  sourceName : String
  deriving DecidableEq, Repr, Inhabited

/-- The two kinds of entities. -/
inductive EntityKind where
  | node
  | relationship
  deriving DecidableEq, Repr, Inhabited

/-- An entity as a message names it. -/
structure EntityRef where
  kind : EntityKind
  name : String
  deriving DecidableEq, Repr, Inhabited

/-- A node or a relationship. -/
inductive Entity where
  | node (value : Node)
  | relationship (value : Relationship)
  deriving DecidableEq, Repr

/-- The name of the uniqueness constraint on a property. Constraint names share one namespace, so
two entities that produce one name cannot both be constrained. -/
def constraintName (labelOrType property : String) : String :=
  Text.lowercase labelOrType ++ "_" ++ Text.lowercase property

/-- The type of a property that does not declare one. -/
def defaultPropertyType : String := "str"

namespace Property

/-- A property beside the key, without a column for other sources. -/
def new (name column type : String) : Property := ⟨name, column, none, type, false⟩

/-- The property as a part of the key. -/
def unique (p : Property) : Property := { p with isUnique := true }

/-- The property with a column for other sources. -/
def withOtherColumn (p : Property) (column : String) : Property :=
  { p with otherColumn := some column }

/-- The column that the property is read from in the rows of `source`, when `home` is the source of
the entity that owns it. -/
def columnFor (p : Property) (home source : String) : String :=
  if SourceFile.same home source then p.column else p.otherColumn.getD p.column

end Property

/-- A node from the default source. -/
def Node.new (label : String) (properties : List Property) : Node :=
  ⟨label, properties, SourceFile.defaultName⟩

/-- The node from another source. -/
def Node.fromSource (n : Node) (sourceName : String) : Node := { n with sourceName := sourceName }

/-- A relationship from the default source. -/
def Relationship.new (type : String) (properties : List Property) (source target : String) :
    Relationship := ⟨type, properties, source, target, SourceFile.defaultName⟩

/-- The relationship from another source. -/
def Relationship.fromSource (r : Relationship) (sourceName : String) : Relationship :=
  { r with sourceName := sourceName }

/-- The kind as a message begins with it. -/
def EntityKind.title : EntityKind → String
  | .node => "Node"
  | .relationship => "Relationship"

/-- The entity as a message names it. -/
def EntityRef.text (r : EntityRef) : String := r.kind.title ++ " " ++ r.name

namespace Entity

/-- Node or relationship. -/
def kind : Entity → EntityKind
  | node _ => .node
  | relationship _ => .relationship

/-- The label or type. -/
def name : Entity → String
  | node n => n.label
  | relationship r => r.type

/-- The properties in their declared order. -/
def properties : Entity → List Property
  | node n => n.properties
  | relationship r => r.properties

/-- The file that the rows are read from. -/
def sourceName : Entity → String
  | node n => n.sourceName
  | relationship r => r.sourceName

/-- The name of the entity in messages. -/
def ref (e : Entity) : EntityRef := ⟨e.kind, e.name⟩

/-- The properties that make the key. -/
def uniqueProperties (e : Entity) : List Property := e.properties.filter (·.isUnique)

/-- The properties beside the key. -/
def otherProperties (e : Entity) : List Property := e.properties.filter fun p => !p.isUnique

/-- The names of the properties. -/
def propertyNames (e : Entity) : List String := e.properties.map (·.name)

/-- The names of the properties that make the key. -/
def keyNames (e : Entity) : List String := e.uniqueProperties.map (·.name)

end Entity

/-- The names of properties with the columns of their own source. -/
def ownColumns (ps : List Property) : List (String × String) := ps.map fun p => (p.name, p.column)

end GraphIngest
