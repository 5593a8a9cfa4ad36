import GraphIngest.Model.Document
import GraphIngest.Json.Decoder

/-!
# The JSON form of documents and models

A document is an object with the lists `nodes` and `relationships`; every field of its records may
be left out and has a default. A model is written as its document, and decoding one builds it.
-/

namespace GraphIngest

open Json (Decoder)

namespace PropertyRecord

/-- The JSON form of the record of a property; a column for other sources is written only when there
is one. -/
def toJson (r : PropertyRecord) : Json :=
  .object (
    [("name", .string r.name), ("csv_mapping", .string r.column)] ++
    (match r.otherColumn with
      | some c => [("csv_mapping_other", .string c)]
      | none => []) ++
    [("type", .string r.type), ("is_unique", .bool r.isUnique)])

/-- The record of a property of which nothing is said. -/
def undeclared : PropertyRecord := ⟨"", "", none, defaultPropertyType, false⟩

/-- Decodes the record of a property. -/
def decoder : Decoder PropertyRecord :=
  Decoder.record "PropertyRecord" undeclared
    [.of "name" .optional .string fun v r => { r with name := v },
     .of "csv_mapping" .optional .string fun v r => { r with column := v },
     .of "csv_mapping_other" .optional (.option .string) fun v r => { r with otherColumn := v },
     .of "type" .optional .string fun v r => { r with type := v },
     .of "is_unique" .optional .bool fun v r => { r with isUnique := v }]

end PropertyRecord

namespace NodeRecord

/-- The JSON form of the record of a node. -/
def toJson (r : NodeRecord) : Json :=
  .object
    [("label", .string r.label), ("properties", .array (r.properties.map (·.toJson))),
     ("source_name", .string r.sourceName)]

/-- The record of a node of which nothing is said. -/
def undeclared : NodeRecord := ⟨"", [], SourceFile.defaultName⟩

/-- Decodes the record of a node. -/
def decoder : Decoder NodeRecord :=
  Decoder.record "NodeRecord" undeclared
    [.of "label" .optional .string fun v r => { r with label := v },
     .of "properties" .optional (.list PropertyRecord.decoder) fun v r =>
       { r with properties := v },
     .of "source_name" .optional .string fun v r => { r with sourceName := v }]

end NodeRecord

namespace RelationshipRecord

/-- The JSON form of the record of a relationship. -/
def toJson (r : RelationshipRecord) : Json :=
  .object
    [("type", .string r.type), ("properties", .array (r.properties.map (·.toJson))),
     ("source", .string r.source), ("target", .string r.target),
     ("source_name", .string r.sourceName)]

/-- The record of a relationship of which nothing is said. -/
def undeclared : RelationshipRecord := ⟨"", [], "", "", SourceFile.defaultName⟩

/-- Decodes the record of a relationship. -/
def decoder : Decoder RelationshipRecord :=
  Decoder.record "RelationshipRecord" undeclared
    [.of "type" .optional .string fun v r => { r with type := v },
     .of "properties" .optional (.list PropertyRecord.decoder) fun v r =>
       { r with properties := v },
     .of "source" .optional .string fun v r => { r with source := v },
     .of "target" .optional .string fun v r => { r with target := v },
     .of "source_name" .optional .string fun v r => { r with sourceName := v }]

end RelationshipRecord

namespace Document

/-- The JSON form of a document. -/
def toJson (d : Document) : Json :=
  .object
    [("nodes", .array (d.nodes.map (·.toJson))),
     ("relationships", .array (d.relationships.map (·.toJson)))]

/-- Decodes a document. -/
def decoder : Decoder Document :=
  Decoder.record "ModelDocument" ⟨[], []⟩
    [.of "nodes" .optional (.list NodeRecord.decoder) fun v d => { d with nodes := v },
     .of "relationships" .optional (.list RelationshipRecord.decoder) fun v d =>
       { d with relationships := v }]

/-- The document that a text holds. -/
def ofText (s : String) : Except Json.Fault Document := Json.decodeText decoder s

/-- The text of a document with a line for every member and item. -/
def prettyText (d : Document) : String := d.toJson.pretty

/-- The text of a document without any space between its tokens. -/
def compactText (d : Document) : String := d.toJson.compact

end Document

namespace Model

/-- A model is written as its document. -/
def toJson (m : Model) : Json := m.document.toJson

/-- Decodes a document and builds its model. -/
def decoder : Decoder Model := fun o t => do
  match (← Document.decoder o t).build with
  | .ok m => return m
  | .error issues => Json.mismatch (.rejected (ConstructionIssue.summary issues))

end Model

/-! ## Issues -/

namespace EntityKind

/-- The name of a kind. -/
def key : EntityKind → String
  | node => "node"
  | relationship => "relationship"

/-- A kind is written as its name. -/
def toJson (k : EntityKind) : Json := .string k.key

/-- Decodes a kind. -/
def decoder : Decoder EntityKind :=
  Decoder.variant [("node", .node), ("relationship", .relationship)]

end EntityKind

namespace EntityRef

/-- The JSON form of the name of an entity. -/
def toJson (r : EntityRef) : Json := .object [("kind", r.kind.toJson), ("name", .string r.name)]

/-- Decodes the name of an entity. -/
def decoder : Decoder EntityRef :=
  Decoder.record "EntityRef" ⟨.node, ""⟩
    [.of "kind" .required EntityKind.decoder fun v r => { r with kind := v },
     .of "name" .required .string fun v r => { r with name := v }]

end EntityRef

namespace ConstructionIssue

/-- The JSON form of an issue: its name under `issue`, then its fields. -/
def toJson : ConstructionIssue → Json
  | emptyName kind => .object [("issue", .string "empty_name"), ("kind", kind.toJson)]
  | duplicateLabel label =>
    .object [("issue", .string "duplicate_label"), ("label", .string label)]
  | missingEndpoint type =>
    .object [("issue", .string "missing_endpoint"), ("rel_type", .string type)]
  | emptyPropertyName entity =>
    .object [("issue", .string "empty_property_name"), ("entity", entity.toJson)]
  | emptyColumn entity property =>
    .object [("issue", .string "empty_column"), ("entity", entity.toJson),
      ("property", .string property)]
  | duplicateProperty entity property =>
    .object [("issue", .string "duplicate_property"), ("entity", entity.toJson),
      ("property", .string property)]
  | unknownDiagramNode id nodeId =>
    .object [("issue", .string "unknown_diagram_node"), ("id", .string id),
      ("node_id", .string nodeId)]

/-- The fields of all issues. -/
structure Fields where
  kind : EntityKind := .node
  label : String := ""
  type : String := ""
  entity : EntityRef := ⟨.node, ""⟩
  property : String := ""
  id : String := ""
  nodeId : String := ""

/-- Decodes the fields of one kind of issue. -/
def shape (name : String) (fields : List (Decoder.Field Fields))
    (make : Fields → ConstructionIssue) : Decoder ConstructionIssue := fun o t =>
  (Decoder.variantRecord "ConstructionIssue" name {} fields o t).map make

/-- The field `entity`. -/
def entityField : Decoder.Field Fields :=
  .of "entity" .required EntityRef.decoder fun v f => { f with entity := v }

/-- The field `property`. -/
def propertyField : Decoder.Field Fields :=
  .of "property" .required .string fun v f => { f with property := v }

/-- Decodes an issue. -/
def decoder : Decoder ConstructionIssue :=
  Decoder.tagged "ConstructionIssue" "issue"
    [("empty_name", shape "EmptyName"
        [.of "kind" .required EntityKind.decoder fun v f => { f with kind := v }]
        fun f => .emptyName f.kind),
     ("duplicate_label", shape "DuplicateLabel"
        [.of "label" .required .string fun v f => { f with label := v }]
        fun f => .duplicateLabel f.label),
     ("missing_endpoint", shape "MissingEndpoint"
        [.of "rel_type" .required .string fun v f => { f with type := v }]
        fun f => .missingEndpoint f.type),
     ("empty_property_name", shape "EmptyPropertyName" [entityField]
        fun f => .emptyPropertyName f.entity),
     ("empty_column", shape "EmptyColumn" [entityField, propertyField]
        fun f => .emptyColumn f.entity f.property),
     ("duplicate_property", shape "DuplicateProperty" [entityField, propertyField]
        fun f => .duplicateProperty f.entity f.property),
     ("unknown_diagram_node", shape "UnknownDiagramNode"
        [.of "id" .required .string fun v f => { f with id := v },
         .of "node_id" .required .string fun v f => { f with nodeId := v }]
        fun f => .unknownDiagramNode f.id f.nodeId)]

end ConstructionIssue

end GraphIngest
