import GraphIngest.Model.Construction

/-!
# Documents

A document is the form that models are written in. Its records are plain data: a record may lack a
name or repeat one, and building a document is the only way from its records to the entities of a
model. Every model has a document, made of records of its entities.
-/

namespace GraphIngest

/-- The record of a property. -/
structure PropertyRecord where
  name : String
  column : String
  otherColumn : Option String
  type : String
  isUnique : Bool
  deriving DecidableEq, Repr, Inhabited

/-- The record of a node. -/
structure NodeRecord where
  label : String
  properties : List PropertyRecord
  sourceName : String
  deriving DecidableEq, Repr, Inhabited

/-- The record of a relationship. -/
structure RelationshipRecord where
  type : String
  properties : List PropertyRecord
  source : String
  target : String
  sourceName : String
  deriving DecidableEq, Repr, Inhabited

/-- Records of nodes and relationships, as they were written. -/
structure Document where
  nodes : List NodeRecord
  relationships : List RelationshipRecord
  deriving DecidableEq, Repr, Inhabited

/-! ## From records to entities -/

namespace PropertyRecord

/-- The property of a record, with another column if the record has one. -/
def mapped (r : PropertyRecord) : Property :=
  match r.otherColumn with
  | some other => (Property.new r.name r.column r.type).withOtherColumn other
  | none => Property.new r.name r.column r.type

/-- The property of a record. -/
def property (r : PropertyRecord) : Property := if r.isUnique then r.mapped.unique else r.mapped

end PropertyRecord

/-- The node of a record. -/
def NodeRecord.node (r : NodeRecord) : Node :=
  (Node.new r.label (r.properties.map (·.property))).fromSource r.sourceName

/-- The relationship of a record. -/
def RelationshipRecord.relationship (r : RelationshipRecord) : Relationship :=
  (Relationship.new r.type (r.properties.map (·.property)) r.source r.target).fromSource
    r.sourceName

namespace Document

/-- What the records of a document declare. -/
def declarations (d : Document) : Declarations :=
  ⟨d.nodes.map (·.node), d.relationships.map (·.relationship)⟩

/-- The model of a document, or everything that stands against it. -/
def build (d : Document) : Except (List ConstructionIssue) Model := d.declarations.build

end Document

/-! ## From entities to records -/

/-- The record of a property. -/
def PropertyRecord.ofProperty (p : Property) : PropertyRecord where
  name := p.name
  column := p.column
  otherColumn := p.otherColumn
  type := p.type
  isUnique := p.isUnique

/-- The record of a node. -/
def NodeRecord.ofNode (n : Node) : NodeRecord where
  label := n.label
  properties := n.properties.map .ofProperty
  sourceName := n.sourceName

/-- The record of a relationship. -/
def RelationshipRecord.ofRelationship (r : Relationship) : RelationshipRecord where
  type := r.type
  properties := r.properties.map .ofProperty
  source := r.source
  target := r.target
  sourceName := r.sourceName

/-- The document of a model. -/
def Model.document (m : Model) : Document where
  nodes := m.nodes.map .ofNode
  relationships := m.relationships.map .ofRelationship

end GraphIngest
