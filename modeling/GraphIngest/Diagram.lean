import GraphIngest.Model.Codec

/-!
# Diagrams

The form of a model that visual graph editors use. A property is one text,
`column | type[ | unique][ | other=column]`, and a source file other than the default one stands
under the reserved key `_source`. Relationships join diagram nodes by their ids.

`Diagram.ofModel` lays the nodes out on a grid; `Diagram.toModel` reads a diagram back, also one
that was drawn by hand.
-/

namespace GraphIngest

open Json (Decoder)

/-- A place in the plane. -/
structure Position where
  x : Binary64
  y : Binary64
  deriving DecidableEq, Repr

/-- The origin of the plane. -/
def Position.origin : Position := ⟨.zero, .zero⟩

/-- A node of a diagram. -/
structure DiagramNode where
  id : String
  position : Position
  caption : String
  labels : List String
  properties : List (String × String)
  style : List (String × Json)
  deriving Repr

/-- A relationship of a diagram. -/
structure DiagramRelationship where
  id : String
  fromId : String
  toId : String
  type : String
  properties : List (String × String)
  style : List (String × Json)
  deriving Repr

/-- A drawing of a model. -/
structure Diagram where
  nodes : List DiagramNode
  relationships : List DiagramRelationship
  style : List (String × Json)
  deriving Repr

namespace Diagram

/-- The reserved property key of the source file. -/
def sourceKey : String := "_source"

/-- The number of nodes in a row. -/
def gridColumns : Nat := 4

/-- The distance of columns. -/
def columnDistance : Nat := 250

/-- The distance of rows. -/
def rowDistance : Nat := 200

/-! ## From a model -/

/-- The text of a property. -/
def encodeProperty (p : Property) : String × String :=
  (p.name, p.column ++ " | " ++ p.type ++ (if p.isUnique then " | unique" else "") ++
    (match p.otherColumn with
      | some other => " | other=" ++ other
      | none => ""))

/-- The texts of the properties of an entity, and of its source. -/
def encodeEntity (e : Entity) : List (String × String) :=
  e.properties.map encodeProperty ++
  if e.sourceName = SourceFile.defaultName then [] else [(sourceKey, e.sourceName)]

/-- The id of the node at a position of the model. -/
def nodeId (i : Nat) : String := "n" ++ toString i

/-- The id of the node with a label; no node has the empty id. -/
def idOf (m : Model) (label : String) : String :=
  match m.nodes.findIdx? (·.label == label) with
  | some i => nodeId i
  | none => ""

/-- The diagram node of the node at a position. -/
def ofNode (i : Nat) (n : Node) : DiagramNode where
  id := nodeId i
  position :=
    ⟨.ofNat (i % gridColumns * columnDistance), .ofNat (i / gridColumns * rowDistance)⟩
  caption := n.label
  labels := [n.label]
  properties := encodeEntity (.node n)
  style := []

/-- The diagram relationship of the relationship at a position. -/
def ofRelationship (m : Model) (i : Nat) (r : Relationship) : DiagramRelationship where
  id := "r" ++ toString i
  fromId := idOf m r.source
  toId := idOf m r.target
  type := r.type
  properties := encodeEntity (.relationship r)
  style := []

/-- The diagram of a model. -/
def ofModel (m : Model) : Diagram where
  nodes := m.nodes.mapIdx ofNode
  relationships := m.relationships.mapIdx (ofRelationship m)
  style := []

/-! ## To a model -/

/-- The parts of a property text, trimmed. -/
def valueParts (value : String) : List String :=
  (Text.segments '|' value.toList).map fun s => String.ofList (Text.trimChars s)

/-- The mark of a column for other sources. -/
def otherMark : List Char := "other=".toList

/-- What stands behind the mark of a column for other sources. -/
def otherColumn? (flag : String) : Option String :=
  if otherMark.isPrefixOf flag.toList then
    some (String.ofList (flag.toList.drop otherMark.length))
  else none

/-- Applies a flag to a property; an unknown flag changes nothing. -/
def applyFlag (p : Property) (flag : String) : Property :=
  if flag = "unique" then { p with isUnique := true }
  else match otherColumn? flag with
    | some other => { p with otherColumn := some other }
    | none => p

/-- The property of a text. -/
def decodeProperty (name value : String) : Property :=
  match valueParts value with
  | [] => ⟨name, "", none, defaultPropertyType, false⟩
  | [column] => ⟨name, column, none, defaultPropertyType, false⟩
  | column :: type :: flags =>
    flags.foldl applyFlag
      ⟨name, column, none, if type = "" then defaultPropertyType else type, false⟩

/-- The properties of an entity from their texts. -/
def decodeProperties (entries : List (String × String)) : List Property :=
  (entries.filter (·.1 != sourceKey)).map fun e => decodeProperty e.1 e.2

/-- The source of an entity: the last one given, or the default one. -/
def decodeSource (entries : List (String × String)) : String :=
  match (entries.filter (·.1 == sourceKey)).getLast? with
  | some e => Text.trim e.2
  | none => SourceFile.defaultName

/-- The label of a diagram node: its caption, or its first label when the caption is blank. -/
def labelOf (n : DiagramNode) : String :=
  if Text.isBlankText n.caption then n.labels.headD "" else n.caption

/-- The node of a diagram node. -/
def toNode (n : DiagramNode) : Node :=
  ⟨labelOf n, decodeProperties n.properties, decodeSource n.properties⟩

/-- The first diagram node with an id. -/
def node? (d : Diagram) (id : String) : Option DiagramNode := d.nodes.find? (·.id == id)

/-- The issues of the ends of a diagram relationship. -/
def endIssues (d : Diagram) (r : DiagramRelationship) : List ConstructionIssue :=
  [r.fromId, r.toId].filterMap fun id =>
    if (d.node? id).isNone then some (.unknownDiagramNode r.id id) else none

/-- The relationship of a diagram relationship whose ends are known. -/
def toRelationship? (d : Diagram) (r : DiagramRelationship) : Option Relationship := do
  let start ← d.node? r.fromId
  let stop ← d.node? r.toId
  return ⟨r.type, decodeProperties r.properties, labelOf start, labelOf stop,
    decodeSource r.properties⟩

/-- What a diagram declares. -/
def declarations (d : Diagram) : Declarations :=
  ⟨d.nodes.map toNode, d.relationships.filterMap d.toRelationship?⟩

/-- The model of a diagram. Ends at unknown nodes are reported alone. -/
def toModel (d : Diagram) : Except (List ConstructionIssue) Model :=
  match d.relationships.flatMap d.endIssues with
  | [] => d.declarations.build
  | issues => .error issues

/-! ## JSON -/

/-- The members of an object, sorted by key; of two members with one key the later one counts. -/
def insertMember (key : String) (value : Json) : List (String × Json) → List (String × Json)
  | [] => [(key, value)]
  | m :: ms =>
    if key < m.1 then (key, value) :: m :: ms
    else if key = m.1 then (key, value) :: ms
    else m :: insertMember key value ms

/-- Sorts the members of an object by key. -/
def sortMembers (ms : List (String × Json)) : List (String × Json) :=
  ms.foldl (fun sorted m => insertMember m.1 m.2 sorted) []

mutual

/-- The value with the members of every object sorted. -/
def sortedJson : Json → Json
  | .array items => .array (sortedItems items)
  | .object members => .object (sortMembers (sortedMembers members))
  | j => j

/-- The items of an array, each of them sorted. -/
def sortedItems : List Json → List Json
  | [] => []
  | j :: js => sortedJson j :: sortedItems js

/-- The members of an object, the value of each sorted. -/
def sortedMembers : List (String × Json) → List (String × Json)
  | [] => []
  | (k, j) :: ms => (k, sortedJson j) :: sortedMembers ms

end

/-- Decodes a style: an object of any values. -/
def styleDecoder : Decoder (List (String × Json)) := fun o t =>
  (Decoder.map "a map" Decoder.any o t).map fun ms => sortMembers (sortedMembers ms)

/-- Decodes the texts of properties in their order. -/
def propertiesDecoder : Decoder (List (String × String)) :=
  Decoder.map "a map of property names to strings" .string

/-- The JSON form of the texts of properties. -/
def propertiesJson (entries : List (String × String)) : Json :=
  .object (entries.map fun e => (e.1, .string e.2))

/-- A coordinate. -/
def coordinate (x : Binary64) : Json := .number (.float x)

end Diagram

/-- The JSON form of a place. -/
def Position.toJson (p : Position) : Json :=
  .object [("x", Diagram.coordinate p.x), ("y", Diagram.coordinate p.y)]

/-- Decodes a place. -/
def Position.decoder : Decoder Position :=
  Decoder.record "Position" .origin
    [.of "x" .required .float fun v p => { p with x := v },
     .of "y" .required .float fun v p => { p with y := v }]

/-- The JSON form of a diagram node. -/
def DiagramNode.toJson (n : DiagramNode) : Json :=
  .object
    [("id", .string n.id), ("position", n.position.toJson), ("caption", .string n.caption),
     ("labels", Json.strings n.labels), ("properties", Diagram.propertiesJson n.properties),
     ("style", .object n.style)]

/-- Decodes a diagram node. -/
def DiagramNode.decoder : Decoder DiagramNode :=
  Decoder.record "DiagramNode" ⟨"", .origin, "", [], [], []⟩
    [.of "id" .required .string fun v n => { n with id := v },
     .of "position" .optional Position.decoder fun v n => { n with position := v },
     .of "caption" .optional .string fun v n => { n with caption := v },
     .of "labels" .optional (.list .string) fun v n => { n with labels := v },
     .of "properties" .optional Diagram.propertiesDecoder fun v n => { n with properties := v },
     .of "style" .optional Diagram.styleDecoder fun v n => { n with style := v }]

/-- The JSON form of a diagram relationship. -/
def DiagramRelationship.toJson (r : DiagramRelationship) : Json :=
  .object
    [("id", .string r.id), ("fromId", .string r.fromId), ("toId", .string r.toId),
     ("type", .string r.type), ("properties", Diagram.propertiesJson r.properties),
     ("style", .object r.style)]

/-- Decodes a diagram relationship. -/
def DiagramRelationship.decoder : Decoder DiagramRelationship :=
  Decoder.record "DiagramRelationship" ⟨"", "", "", "", [], []⟩
    [.of "id" .required .string fun v r => { r with id := v },
     .of "fromId" .required .string fun v r => { r with fromId := v },
     .of "toId" .required .string fun v r => { r with toId := v },
     .of "type" .optional .string fun v r => { r with type := v },
     .of "properties" .optional Diagram.propertiesDecoder fun v r => { r with properties := v },
     .of "style" .optional Diagram.styleDecoder fun v r => { r with style := v }]

namespace Diagram

/-- The JSON form of a diagram. -/
def toJson (d : Diagram) : Json :=
  .object
    [("nodes", .array (d.nodes.map (·.toJson))),
     ("relationships", .array (d.relationships.map (·.toJson))), ("style", .object d.style)]

/-- Decodes a diagram. -/
def decoder : Decoder Diagram :=
  Decoder.record "DiagramDocument" ⟨[], [], []⟩
    [.of "nodes" .optional (.list DiagramNode.decoder) fun v d => { d with nodes := v },
     .of "relationships" .optional (.list DiagramRelationship.decoder) fun v d =>
       { d with relationships := v },
     .of "style" .optional styleDecoder fun v d => { d with style := v }]

/-- The diagram that a text holds. -/
def ofText (s : String) : Except Json.Fault Diagram := Json.decodeText decoder s

end Diagram

end GraphIngest
