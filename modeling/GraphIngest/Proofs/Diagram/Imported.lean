import GraphIngest.Proofs.Diagram.RoundTrip

/-!
# Diagrams that were drawn by hand

A diagram may say one thing in many ways: its ids may be repeated, its texts have blanks, unknown
flags, and flags or sources that are overwritten later. The model that it is read as says it in one
way, which its own diagram keeps.

* `legible_of_toModel`, `endsDeclared_of_toModel` — what holds of every model that is read from a
  diagram;
* `exists_toModel_iff` — these are the models that diagrams are read as;
* `reimported` — exporting such a model and importing it again changes nothing.
-/

namespace GraphIngest.Diagram

variable {d : Diagram} {m : Model}

/-- A diagram is read as a model when all ends are known and it declares what the model does. -/
theorem toModel_eq_ok_iff :
    d.toModel = .ok m ↔ d.relationships.flatMap d.endIssues = [] ∧ m.declared = d.declarations := by
  unfold toModel
  cases d.relationships.flatMap d.endIssues with
  | nil => exact Declarations.build_eq_ok_iff.trans (and_iff_right rfl).symm
  | cons issue issues =>
    constructor
    · intro h
      cases h
    · rintro ⟨h, -⟩
      cases h

/-- A relationship has the labels of the nodes that its ends point at. -/
theorem toRelationship?_eq_some_iff {dr : DiagramRelationship} {r : Relationship} :
    d.toRelationship? dr = some r ↔
      ∃ start stop, d.node? dr.fromId = some start ∧ d.node? dr.toId = some stop ∧
        r = ⟨dr.type, decodeProperties dr.properties, labelOf start, labelOf stop,
          decodeSource dr.properties⟩ := by
  unfold toRelationship?
  cases d.node? dr.fromId with
  | none => simp
  | some start =>
    cases d.node? dr.toId with
    | none => simp
    | some stop => simp [eq_comm]

/-- **Every model that is read from a diagram is legible.** -/
theorem legible_of_toModel (h : d.toModel = .ok m) : m.Legible := by
  obtain ⟨-, hdeclared⟩ := toModel_eq_ok_iff.1 h
  intro e he
  rcases Model.mem_entities.1 he with ⟨n, hn, rfl⟩ | ⟨r, hr, rfl⟩
  · unfold Model.nodes at hn
    rw [hdeclared] at hn
    obtain ⟨dn, -, rfl⟩ := List.mem_map.1 hn
    exact legible_of_decoded dn.properties rfl rfl
  · unfold Model.relationships at hr
    rw [hdeclared] at hr
    obtain ⟨dr, -, hdr⟩ := List.mem_filterMap.1 hr
    obtain ⟨start, stop, -, -, rfl⟩ := toRelationship?_eq_some_iff.1 hdr
    exact legible_of_decoded dr.properties rfl rfl

/-- **Every relationship that is read from a diagram ends at labels of nodes**, also where nodes
share an id: an end means the first node with its id, and that node is a node of the model. -/
theorem endsDeclared_of_toModel (h : d.toModel = .ok m) : m.EndsDeclared := by
  obtain ⟨-, hdeclared⟩ := toModel_eq_ok_iff.1 h
  have hlabel : ∀ id dn, d.node? id = some dn → ∃ n ∈ m.nodes, n.label = labelOf dn := by
    intro id dn hdn
    refine ⟨toNode dn, ?_, rfl⟩
    unfold Model.nodes
    rw [hdeclared]
    exact List.mem_map_of_mem (List.mem_of_find?_eq_some hdn)
  intro r hr role
  unfold Model.relationships at hr
  rw [hdeclared] at hr
  obtain ⟨dr, -, hdr⟩ := List.mem_filterMap.1 hr
  obtain ⟨start, stop, hstart, hstop, rfl⟩ := toRelationship?_eq_some_iff.1 hdr
  cases role with
  | source => exact hlabel _ _ hstart
  | target => exact hlabel _ _ hstop

/-- **The models that diagrams are read as** are those with declared ends and legible entities. -/
theorem exists_toModel_iff : (∃ d : Diagram, d.toModel = .ok m) ↔ m.EndsDeclared ∧ m.Legible := by
  constructor
  · rintro ⟨d, h⟩
    exact ⟨endsDeclared_of_toModel h, legible_of_toModel h⟩
  · rintro ⟨hends, hlegible⟩
    exact ⟨ofModel m, (toModel_ofModel_iff hends).2 hlegible⟩

/-- **Importing a diagram reaches a stable form.** However a diagram was drawn, the model that it is
read as is what its own diagram is read as. -/
theorem reimported (h : d.toModel = .ok m) : (ofModel m).toModel = .ok m := by
  obtain ⟨hends, hlegible⟩ := exists_toModel_iff.1 ⟨d, h⟩
  exact (toModel_ofModel_iff hends).2 hlegible

/-- A diagram with an id that two nodes share, a caption that is blank, unknown and repeated flags,
and several sources, one of them the default one with blanks around it. -/
def sketch : Diagram where
  nodes :=
    [⟨"a", .origin, " ", ["Person", "Human"],
      [("_source", "x.csv"), ("id", " person id | | nope|unique | other=p |other= q "),
        ("_source", " people.csv ")], []⟩,
     ⟨"a", .origin, "Pet ", ["Animal"], [("name", "pet"), ("_source", " file ")], []⟩]
  relationships := [⟨"r", "a", "a", "KNOWS", [("since", "year| int |other=|")], []⟩]
  style := []

/-- What the diagram says. -/
def sketchModel : Model :=
  ⟨⟨[⟨"Person", [⟨"id", "person id", some " q", "str", true⟩], "people.csv"⟩,
      ⟨"Pet ", [⟨"name", "pet", none, "str", false⟩], "file"⟩],
    [⟨"KNOWS", [⟨"since", "year", some "", "int", false⟩], "Person", "Person", "file"⟩]⟩, by decide⟩

/-- The diagram drawn by hand and the one of its model are read as that model. -/
theorem reimported_sketch :
    sketch.toModel = .ok sketchModel ∧ (ofModel sketchModel).toModel = .ok sketchModel :=
  have h : sketch.toModel = .ok sketchModel := toModel_eq_ok_iff.2 ⟨by decide, by decide⟩
  ⟨h, reimported h⟩

end GraphIngest.Diagram
