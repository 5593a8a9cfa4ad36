import GraphIngest.Validation
import GraphIngest.Proofs.Columns.Scope
import GraphIngest.Proofs.Model.Construction

/-!
# The rules of validation, stated on their own

What a model has to satisfy, and what a violation asserts, without saying how either is checked:

* `Model.Fits` — the rules that a model keeps with respect to the allowed columns;
* `Violation.Holds` — what a reported violation says about the model;
* `Model.fits_iff` — a model keeps the rules exactly when no violation is true of it.
-/

namespace GraphIngest

/-! ## Entities -/

/-- The label at an end of a relationship. -/
def Relationship.endLabel (r : Relationship) : EndpointRole → String
  | .source => r.source
  | .target => r.target

/-- The names of the constraints on the key of an entity. -/
def Entity.constraintNames (e : Entity) : List String := e.keyNames.map (constraintName e.name)

/-- The first of several entities with a constraint of that name. -/
def firstOwner? (es : List Entity) (name : String) : Option Entity :=
  es.find? fun e => e.constraintNames.contains name

theorem Entity.mem_uniqueProperties {e : Entity} {p : Property} :
    p ∈ e.uniqueProperties ↔ p ∈ e.properties ∧ p.isUnique = true := by
  simp [uniqueProperties]

theorem Entity.keyNames_isEmpty (e : Entity) :
    e.keyNames.isEmpty = true ↔ ∀ p ∈ e.properties, p.isUnique = false := by
  simp [keyNames, uniqueProperties]

theorem firstOwner?_append (es fs : List Entity) (name : String) :
    firstOwner? (es ++ fs) name = (firstOwner? es name).or (firstOwner? fs name) := by
  simp [firstOwner?, List.find?_append]

theorem firstOwner?_singleton (e : Entity) (name : String) :
    firstOwner? [e] name = if name ∈ e.constraintNames then some e else none := by
  simp [firstOwner?, List.find?_cons]
  split <;> simp_all

theorem mem_of_firstOwner? {es : List Entity} {name : String} {o : Entity}
    (h : firstOwner? es name = some o) : o ∈ es ∧ name ∈ o.constraintNames :=
  ⟨List.mem_of_find?_eq_some h, by simpa using List.find?_some h⟩

theorem firstOwner?_isSome {es : List Entity} {name : String} {e : Entity} (he : e ∈ es)
    (h : name ∈ e.constraintNames) : ∃ o, firstOwner? es name = some o :=
  Option.isSome_iff_exists.1 (List.find?_isSome.2 ⟨e, he, by simpa using h⟩)

/-! ## The rules -/

/-- **A model keeps the rules with respect to the allowed columns.** -/
structure Model.Fits (m : Model) (a : AllowedColumns) : Prop where
  /-- The file of every entity is known. -/
  sources : ∀ e ∈ m.entities, ∃ columns, a.scope e.sourceName = some columns
  /-- The column of every property is in the file of its entity. -/
  columns : ∀ e ∈ m.entities, ∀ p ∈ e.properties, a.contains e.sourceName p.column = true
  /-- Every node has a key. -/
  keys : ∀ n ∈ m.nodes, ∃ p ∈ n.properties, p.isUnique = true
  /-- Every relationship ends at labels of nodes. -/
  endpoints : ∀ r ∈ m.relationships, ∀ role, ∃ n ∈ m.nodes, n.label = r.endLabel role
  /-- The key of an end in another file can be read from the file of the relationship. -/
  endpointKeys : ∀ r ∈ m.relationships, ∀ role, ∀ n ∈ m.nodes, n.label = r.endLabel role →
    SourceFile.same n.sourceName r.sourceName = false → ∀ p ∈ n.properties, p.isUnique = true →
      a.contains r.sourceName (p.columnFor n.sourceName r.sourceName) = true
  /-- No two entities at different positions have a constraint of one name. -/
  names : m.entities.Pairwise fun e f => ∀ name ∈ e.constraintNames, name ∉ f.constraintNames

/-- What a violation says about a model and the allowed columns. -/
def Violation.Holds (m : Model) (a : AllowedColumns) : Violation → Prop
  | columnMissing entity property column source =>
    ∃ e ∈ m.entities, e.ref = entity ∧ e.sourceName = source ∧
      ∃ p ∈ e.properties, p.name = property ∧ p.column = column ∧
        a.contains source column = false
  | uniqueColumnMissing entity property column source =>
    ∃ e ∈ m.entities, e.ref = entity ∧ e.sourceName = source ∧
      ∃ p ∈ e.properties, p.isUnique = true ∧ p.name = property ∧ p.column = column ∧
        a.contains source column = false
  | missingNodeKey label => ∃ n ∈ m.nodes, n.label = label ∧ ∀ p ∈ n.properties, p.isUnique = false
  | nameCollision constraint property first second =>
    ∃ before e after, m.entities = before ++ e :: after ∧ e.ref = second ∧
      property ∈ e.keyNames ∧ constraintName e.name property = constraint ∧
        ∃ o, firstOwner? before constraint = some o ∧ o.ref = first
  | unknownEndpoint type role label =>
    ∃ r ∈ m.relationships, r.type = type ∧ r.endLabel role = label ∧ ∀ n ∈ m.nodes, n.label ≠ label
  | endpointKeyMissing type label property column source =>
    ∃ r ∈ m.relationships, r.type = type ∧ r.sourceName = source ∧
      ∃ role, r.endLabel role = label ∧ ∃ n ∈ m.nodes, n.label = label ∧
        SourceFile.same n.sourceName source = false ∧ a.scope source ≠ none ∧
          ∃ p ∈ n.properties, p.isUnique = true ∧ p.name = property ∧
            p.columnFor n.sourceName source = column ∧ a.contains source column = false
  | unknownSource entity source =>
    ∃ e ∈ m.entities, e.ref = entity ∧ e.sourceName = source ∧ a.scope source = none

variable {m : Model} {a : AllowedColumns}

theorem Model.Fits.not_holds (h : m.Fits a) (v : Violation) : ¬ v.Holds m a := by
  cases v with
  | columnMissing entity property column source =>
    rintro ⟨e, he, -, rfl, p, hp, -, rfl, hc⟩
    simp [h.columns e he p hp] at hc
  | uniqueColumnMissing entity property column source =>
    rintro ⟨e, he, -, rfl, p, hp, -, -, rfl, hc⟩
    simp [h.columns e he p hp] at hc
  | missingNodeKey label =>
    rintro ⟨n, hn, -, hkey⟩
    obtain ⟨p, hp, hu⟩ := h.keys n hn
    simp [hkey p hp] at hu
  | nameCollision constraint property first second =>
    rintro ⟨before, e, after, hes, -, hprop, rfl, o, ho, -⟩
    obtain ⟨hmem, hown⟩ := mem_of_firstOwner? ho
    have hpair := h.names
    rw [hes, List.pairwise_append] at hpair
    exact hpair.2.2 o hmem e List.mem_cons_self _ hown (List.mem_map_of_mem hprop)
  | unknownEndpoint type role label =>
    rintro ⟨r, hr, -, rfl, hno⟩
    obtain ⟨n, hn, hlabel⟩ := h.endpoints r hr role
    exact hno n hn hlabel
  | endpointKeyMissing type label property column source =>
    rintro ⟨r, hr, -, rfl, role, rfl, n, hn, hlabel, hsame, -, p, hp, hu, -, rfl, hc⟩
    simp [h.endpointKeys r hr role n hn hlabel hsame p hp hu] at hc
  | unknownSource entity source =>
    rintro ⟨e, he, -, rfl, hnone⟩
    obtain ⟨columns, hs⟩ := h.sources e he
    simp [hs] at hnone

/-- Entities that share a constraint name collide at the later one. -/
theorem names_pairwise (h : ∀ v : Violation, ¬ v.Holds m a) :
    m.entities.Pairwise fun e f => ∀ name ∈ e.constraintNames, name ∉ f.constraintNames := by
  rw [List.pairwise_iff_getElem]
  intro i j hi hj hij name hname hshared
  obtain ⟨property, hprop, rfl⟩ := List.mem_map.1 hshared
  -- The first owner may stand even before `i`; it is enough that there is one before `j`.
  have hmem : m.entities[i] ∈ m.entities.take j :=
    List.mem_take_iff_getElem.2 ⟨i, by omega, rfl⟩
  obtain ⟨o, ho⟩ := firstOwner?_isSome hmem hname
  refine h (.nameCollision _ property o.ref m.entities[j].ref)
    ⟨m.entities.take j, m.entities[j], m.entities.drop (j + 1), ?_, rfl, hprop, rfl, o, ho, rfl⟩
  rw [← List.drop_eq_getElem_cons hj, List.take_append_drop]

/-- **A model keeps the rules exactly when no violation is true of it.** -/
theorem Model.fits_iff : m.Fits a ↔ ∀ v : Violation, ¬ v.Holds m a := by
  refine ⟨fun h v => h.not_holds v, fun h => ?_⟩
  have hcolumns : ∀ e ∈ m.entities, ∀ p ∈ e.properties,
      a.contains e.sourceName p.column = true := by
    intro e he p hp
    refine eq_true_of_ne_false fun hc => ?_
    exact h (.columnMissing e.ref p.name p.column e.sourceName)
      ⟨e, he, rfl, rfl, p, hp, rfl, rfl, hc⟩
  have hsources : ∀ e ∈ m.entities, ∃ columns, a.scope e.sourceName = some columns := by
    intro e he
    refine Option.ne_none_iff_exists'.1 fun hnone => ?_
    exact h (.unknownSource e.ref e.sourceName) ⟨e, he, rfl, rfl, hnone⟩
  refine ⟨hsources, hcolumns, ?_, ?_, ?_, names_pairwise h⟩
  · intro n hn
    refine Classical.byContradiction fun hno => h (.missingNodeKey n.label) ⟨n, hn, rfl, ?_⟩
    exact fun p hp => eq_false_of_ne_true fun hu => hno ⟨p, hp, hu⟩
  · intro r hr role
    refine Classical.byContradiction fun hno =>
      h (.unknownEndpoint r.type role (r.endLabel role)) ⟨r, hr, rfl, rfl, ?_⟩
    exact fun n hn hlabel => hno ⟨n, hn, hlabel⟩
  · intro r hr role n hn hlabel hsame p hp hu
    have hr' : Entity.relationship r ∈ m.entities := Model.mem_entities.2 (.inr ⟨r, hr, rfl⟩)
    obtain ⟨columns, hs⟩ := hsources _ hr'
    refine eq_true_of_ne_false fun hc => ?_
    refine h (.endpointKeyMissing r.type n.label p.name _ r.sourceName)
      ⟨r, hr, rfl, rfl, role, hlabel.symm, n, hn, rfl, hsame, ?_, p, hp, hu, rfl, rfl, hc⟩
    exact fun hnone => nomatch hs.symm.trans hnone

end GraphIngest
