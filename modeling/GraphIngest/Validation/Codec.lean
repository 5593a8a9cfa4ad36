import GraphIngest.Validation
import GraphIngest.Model.Codec

/-!
# The JSON form of violations

A violation is an object with its name under `kind` and its fields next to it.
-/

namespace GraphIngest

open Json (Decoder)

namespace EndpointRole

/-- An end of a relationship is written as its word. -/
def toJson (r : EndpointRole) : Json := .string r.text

/-- Decodes an end of a relationship. -/
def decoder : Decoder EndpointRole :=
  Decoder.variant [("source", .source), ("target", .target)]

end EndpointRole

namespace Violation

/-- The JSON form of a violation. -/
def toJson : Violation → Json
  | columnMissing entity property column source =>
    .object [("kind", .string "property_column_missing"), ("entity", entity.toJson),
      ("property", .string property), ("column", .string column), ("source", .string source)]
  | uniqueColumnMissing entity property column source =>
    .object [("kind", .string "unique_property_column_missing"), ("entity", entity.toJson),
      ("property", .string property), ("column", .string column), ("source", .string source)]
  | missingNodeKey label =>
    .object [("kind", .string "missing_node_key"), ("label", .string label)]
  | nameCollision constraint property first second =>
    .object [("kind", .string "unique_name_collision"), ("constraint", .string constraint),
      ("property", .string property), ("first", first.toJson), ("second", second.toJson)]
  | unknownEndpoint type role label =>
    .object [("kind", .string "unknown_endpoint"), ("rel_type", .string type),
      ("role", role.toJson), ("label", .string label)]
  | endpointKeyMissing type label property column source =>
    .object [("kind", .string "endpoint_key_column_missing"), ("rel_type", .string type),
      ("label", .string label), ("property", .string property), ("column", .string column),
      ("source", .string source)]
  | unknownSource entity source =>
    .object [("kind", .string "unknown_source_file"), ("entity", entity.toJson),
      ("source", .string source)]

/-- The fields of all violations. -/
structure Fields where
  entity : EntityRef := ⟨.node, ""⟩
  first : EntityRef := ⟨.node, ""⟩
  second : EntityRef := ⟨.node, ""⟩
  role : EndpointRole := .source
  property : String := ""
  column : String := ""
  source : String := ""
  label : String := ""
  type : String := ""
  constraint : String := ""

/-- A field that holds a text. -/
def textField (key : String) (put : String → Fields → Fields) : Decoder.Field Fields :=
  .of key .required .string put

/-- A field that holds the name of an entity. -/
def refField (key : String) (put : EntityRef → Fields → Fields) : Decoder.Field Fields :=
  .of key .required EntityRef.decoder put

/-- Decodes the fields of one kind of violation. -/
def shape (name : String) (fields : List (Decoder.Field Fields)) (make : Fields → Violation) :
    Decoder Violation := fun o t =>
  (Decoder.variantRecord "SchemaViolation" name {} fields o t).map make

/-- The fields of a mapping to a column that is not there. -/
def mappingFields : List (Decoder.Field Fields) :=
  [refField "entity" fun v f => { f with entity := v },
   textField "property" fun v f => { f with property := v },
   textField "column" fun v f => { f with column := v },
   textField "source" fun v f => { f with source := v }]

/-- Decodes a violation. -/
def decoder : Decoder Violation :=
  Decoder.tagged "SchemaViolation" "kind"
    [("property_column_missing", shape "PropertyColumnMissing" mappingFields
        fun f => .columnMissing f.entity f.property f.column f.source),
     ("unique_property_column_missing", shape "UniquePropertyColumnMissing" mappingFields
        fun f => .uniqueColumnMissing f.entity f.property f.column f.source),
     ("missing_node_key", shape "MissingNodeKey"
        [textField "label" fun v f => { f with label := v }]
        fun f => .missingNodeKey f.label),
     ("unique_name_collision", shape "UniqueNameCollision"
        [textField "constraint" fun v f => { f with constraint := v },
         textField "property" fun v f => { f with property := v },
         refField "first" fun v f => { f with first := v },
         refField "second" fun v f => { f with second := v }]
        fun f => .nameCollision f.constraint f.property f.first f.second),
     ("unknown_endpoint", shape "UnknownEndpoint"
        [textField "rel_type" fun v f => { f with type := v },
         .of "role" .required EndpointRole.decoder fun v f => { f with role := v },
         textField "label" fun v f => { f with label := v }]
        fun f => .unknownEndpoint f.type f.role f.label),
     ("endpoint_key_column_missing", shape "EndpointKeyColumnMissing"
        [textField "rel_type" fun v f => { f with type := v },
         textField "label" fun v f => { f with label := v },
         textField "property" fun v f => { f with property := v },
         textField "column" fun v f => { f with column := v },
         textField "source" fun v f => { f with source := v }]
        fun f => .endpointKeyMissing f.type f.label f.property f.column f.source),
     ("unknown_source_file", shape "UnknownSourceFile"
        [refField "entity" fun v f => { f with entity := v },
         textField "source" fun v f => { f with source := v }]
        fun f => .unknownSource f.entity f.source)]

end Violation

end GraphIngest
