import GraphIngest.Proofs.Validation.Rules

/-!
# The places that validation looks at

A `Place` is one thing that can be wrong with a model: the file of an entity, the column of a
property, a key that is missing, an end of a relationship, a key column of an end, a constraint
name. Each place has at most one violation, and `Model.places` lists them in the order of a report.

* `mem_places` — which places a model has;
* `exists_violation?_iff` — a violation is true of a model exactly when one of its places has it.
-/

namespace GraphIngest

/-- One thing that can be wrong with a model. -/
inductive Place where
  | source (e : Entity)
  | column (e : Entity) (p : Property)
  | uniqueColumn (e : Entity) (p : Property)
  | nodeKey (n : Node)
  | endpoint (r : Relationship) (role : EndpointRole)
  | endpointKey (r : Relationship) (role : EndpointRole) (n : Node) (p : Property)
  | constraint (before : List Entity) (e : Entity) (property : String)

/-- The violation at a place, if there is one. -/
def Place.violation? (m : Model) (a : AllowedColumns) : Place → Option Violation
  | source e =>
    if a.scope e.sourceName = none then some (.unknownSource e.ref e.sourceName) else none
  | column e p =>
    if a.contains e.sourceName p.column = false then
      some (.columnMissing e.ref p.name p.column e.sourceName)
    else none
  | uniqueColumn e p =>
    if p.isUnique = true ∧ a.contains e.sourceName p.column = false then
      some (.uniqueColumnMissing e.ref p.name p.column e.sourceName)
    else none
  | nodeKey n =>
    if ∀ p ∈ n.properties, p.isUnique = false then some (.missingNodeKey n.label) else none
  | endpoint r role =>
    if ∀ n ∈ m.nodes, n.label ≠ r.endLabel role then
      some (.unknownEndpoint r.type role (r.endLabel role))
    else none
  | endpointKey r role n p =>
    let column := p.columnFor n.sourceName r.sourceName
    if p.isUnique = true ∧ SourceFile.same n.sourceName r.sourceName = false ∧
        a.scope r.sourceName ≠ none ∧ a.contains r.sourceName column = false then
      some (.endpointKeyMissing r.type (r.endLabel role) p.name column r.sourceName)
    else none
  | constraint before e property =>
    let name := constraintName e.name property
    (firstOwner? before name).map fun o => .nameCollision name property o.ref e.ref

/-- The source of an entity, then the column of each property, twice for the unique ones. -/
def mappingPlaces (e : Entity) : List Place :=
  .source e :: e.properties.flatMap fun p => [.column e p, .uniqueColumn e p]

/-- An end of a relationship, then the properties of the node it names. -/
def endPlaces (m : Model) (r : Relationship) (role : EndpointRole) : List Place :=
  .endpoint r role ::
    (m.nodes.filter (·.label == r.endLabel role)).flatMap fun n =>
      n.properties.map (.endpointKey r role n)

/-- The keys of each entity against the entities before it. -/
def constraintPlaces (before : List Entity) : List Entity → List Place
  | [] => []
  | e :: es => e.keyNames.map (.constraint before e) ++ constraintPlaces (before ++ [e]) es

/-- The places of a model: those of its nodes, of its relationships, and of its constraints. -/
def Model.places (m : Model) : List Place :=
  (m.nodes.flatMap fun n => mappingPlaces (.node n) ++ [.nodeKey n]) ++
  (m.relationships.flatMap fun r =>
    mappingPlaces (.relationship r) ++ endPlaces m r .source ++ endPlaces m r .target) ++
  constraintPlaces [] m.entities

/-- A place belongs to a model. -/
def Place.Of (m : Model) : Place → Prop
  | source e => e ∈ m.entities
  | column e p | uniqueColumn e p => e ∈ m.entities ∧ p ∈ e.properties
  | nodeKey n => n ∈ m.nodes
  | endpoint r _ => r ∈ m.relationships
  | endpointKey r role n p =>
    r ∈ m.relationships ∧ n ∈ m.nodes ∧ n.label = r.endLabel role ∧ p ∈ n.properties
  | constraint before e property =>
    (∃ after, m.entities = before ++ e :: after) ∧ property ∈ e.keyNames

variable {m : Model} {a : AllowedColumns}

theorem mem_mappingPlaces {place : Place} {e : Entity} :
    place ∈ mappingPlaces e ↔ place = .source e ∨
      ∃ p ∈ e.properties, place = .column e p ∨ place = .uniqueColumn e p := by
  simp [mappingPlaces]

theorem mem_endPlaces {place : Place} {r : Relationship} {role : EndpointRole} :
    place ∈ endPlaces m r role ↔ place = .endpoint r role ∨
      ∃ n ∈ m.nodes, n.label = r.endLabel role ∧ ∃ p ∈ n.properties,
        place = .endpointKey r role n p := by
  unfold endPlaces
  simp only [List.mem_cons, List.mem_flatMap, List.mem_filter, beq_iff_eq, List.mem_map,
    and_assoc, @eq_comm _ place]

theorem mem_constraintPlaces {place : Place} {before es : List Entity} :
    place ∈ constraintPlaces before es ↔ ∃ earlier e after property,
      es = earlier ++ e :: after ∧ property ∈ e.keyNames ∧
        place = .constraint (before ++ earlier) e property := by
  induction es generalizing before with
  | nil => simp [constraintPlaces]
  | cons f fs ih =>
    rw [constraintPlaces, List.mem_append, ih]
    constructor
    · rintro (h | ⟨earlier, e, after, property, rfl, hprop, rfl⟩)
      · obtain ⟨property, hprop, rfl⟩ := List.mem_map.1 h
        exact ⟨[], f, fs, property, rfl, hprop, by simp⟩
      · exact ⟨f :: earlier, e, after, property, rfl, hprop, by simp⟩
    · rintro ⟨earlier, e, after, property, hes, hprop, rfl⟩
      cases earlier with
      | nil =>
        obtain ⟨rfl, rfl⟩ := List.cons.inj hes
        exact .inl (List.mem_map.2 ⟨property, hprop, by simp⟩)
      | cons g earlier =>
        obtain ⟨rfl, rfl⟩ := List.cons.inj hes
        exact .inr ⟨earlier, e, after, property, rfl, hprop, by simp⟩

/-- **The places of a model.** -/
theorem mem_places {place : Place} : place ∈ m.places ↔ place.Of m := by
  unfold Model.places
  simp only [List.mem_append, List.mem_flatMap, List.mem_singleton, mem_mappingPlaces,
    mem_endPlaces, mem_constraintPlaces, List.nil_append]
  cases place with
  | source e => simp [Place.Of, Model.mem_entities]
  | column e p => simp [Place.Of, Model.mem_entities]; grind [Entity.properties]
  | uniqueColumn e p => simp [Place.Of, Model.mem_entities]; grind [Entity.properties]
  | nodeKey n => simp [Place.Of]
  | endpoint r role => cases role <;> simp [Place.Of]
  | endpointKey r role n p =>
    simp only [Place.Of]
    constructor
    · intro h
      cases role <;> simp at h <;> grind
    · rintro ⟨hr, hn, hlabel, hp⟩
      refine .inl (.inr ⟨r, hr, ?_⟩)
      cases role
      · exact .inl (.inr (.inr ⟨n, hn, hlabel, p, hp, rfl⟩))
      · exact .inr (.inr ⟨n, hn, hlabel, p, hp, rfl⟩)
  | constraint before e property =>
    simp only [Place.Of]
    constructor
    · intro h
      simp at h
      grind
    · rintro ⟨⟨after, hes⟩, hprop⟩
      exact .inr ⟨before, e, after, property, hes, hprop, rfl⟩

/-- **A violation is true of a model exactly when one of its places has it.** -/
theorem exists_violation?_iff {v : Violation} :
    (∃ place : Place, place.Of m ∧ place.violation? m a = some v) ↔ v.Holds m a := by
  constructor
  · rintro ⟨place, hof, hv⟩
    cases place with
    | source e =>
      obtain ⟨hnone, ⟨⟩⟩ := Option.ite_none_right_eq_some.1 hv
      exact ⟨e, hof, rfl, rfl, hnone⟩
    | column e p =>
      obtain ⟨hc, ⟨⟩⟩ := Option.ite_none_right_eq_some.1 hv
      exact ⟨e, hof.1, rfl, rfl, p, hof.2, rfl, rfl, hc⟩
    | uniqueColumn e p =>
      obtain ⟨⟨hu, hc⟩, ⟨⟩⟩ := Option.ite_none_right_eq_some.1 hv
      exact ⟨e, hof.1, rfl, rfl, p, hof.2, hu, rfl, rfl, hc⟩
    | nodeKey n =>
      obtain ⟨hkey, ⟨⟩⟩ := Option.ite_none_right_eq_some.1 hv
      exact ⟨n, hof, rfl, hkey⟩
    | endpoint r role =>
      obtain ⟨hno, ⟨⟩⟩ := Option.ite_none_right_eq_some.1 hv
      exact ⟨r, hof, rfl, rfl, hno⟩
    | endpointKey r role n p =>
      obtain ⟨hr, hn, hlabel, hp⟩ := hof
      obtain ⟨⟨hu, hsame, hs, hc⟩, ⟨⟩⟩ := Option.ite_none_right_eq_some.1 hv
      exact ⟨r, hr, rfl, rfl, role, rfl, n, hn, hlabel, hsame, hs, p, hp, hu, rfl, rfl, hc⟩
    | constraint before e property =>
      obtain ⟨⟨after, hes⟩, hprop⟩ := hof
      obtain ⟨o, ho, rfl⟩ := Option.map_eq_some_iff.1 hv
      exact ⟨before, e, after, hes, rfl, hprop, rfl, o, ho, rfl⟩
  · intro h
    cases v with
    | columnMissing entity property column source =>
      obtain ⟨e, he, rfl, rfl, p, hp, rfl, rfl, hc⟩ := h
      exact ⟨.column e p, ⟨he, hp⟩, if_pos hc⟩
    | uniqueColumnMissing entity property column source =>
      obtain ⟨e, he, rfl, rfl, p, hp, hu, rfl, rfl, hc⟩ := h
      exact ⟨.uniqueColumn e p, ⟨he, hp⟩, if_pos ⟨hu, hc⟩⟩
    | missingNodeKey label =>
      obtain ⟨n, hn, rfl, hkey⟩ := h
      exact ⟨.nodeKey n, hn, if_pos hkey⟩
    | nameCollision constraint property first second =>
      obtain ⟨before, e, after, hes, rfl, hprop, rfl, o, ho, rfl⟩ := h
      exact ⟨.constraint before e property, ⟨⟨after, hes⟩, hprop⟩,
        Option.map_eq_some_iff.2 ⟨o, ho, rfl⟩⟩
    | unknownEndpoint type role label =>
      obtain ⟨r, hr, rfl, rfl, hno⟩ := h
      exact ⟨.endpoint r role, hr, if_pos hno⟩
    | endpointKeyMissing type label property column source =>
      obtain ⟨r, hr, rfl, rfl, role, rfl, n, hn, hlabel, hsame, hs, p, hp, hu, rfl, rfl, hc⟩ := h
      exact ⟨.endpointKey r role n p, ⟨hr, hn, hlabel, hp⟩, if_pos ⟨hu, hsame, hs, hc⟩⟩
    | unknownSource entity source =>
      obtain ⟨e, he, rfl, rfl, hnone⟩ := h
      exact ⟨.source e, he, if_pos hnone⟩

end GraphIngest
