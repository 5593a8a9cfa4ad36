import GraphIngest.Loader.Config
import GraphIngest.Proofs.Cypher.Reader
import GraphIngest.Proofs.Validation.Report

/-!
# The names of constraints

Constraint names share one namespace, and a statement whose name is taken does nothing. Validation
compares the names of different entities; it leaves those of one entity to that entity.

* `createdName?_constraintStatement` — a statement creates the constraint with the name of its
  entity and property;
* `accepted_constraint_names` — in an accepted model no two entities create constraints of one name,
  and two properties of an entity do so exactly when their names have one lower case form;
* `constraint_name_taken_twice` — such an entity is accepted, and its second statement does nothing.
-/

namespace GraphIngest.Cypher

variable {m : Model} {a : AllowedColumns}

/-! ## One statement -/

/-- The name of the constraint that a statement creates. -/
def createdName? (statement : String) : Option String := do
  let cs ← readText "CREATE CONSTRAINT " statement.toList
  let (name, _) ← readIdentifier cs
  return name

/-- **A statement creates the constraint of its entity and property.** -/
theorem createdName?_constraintStatement (e : Entity) (property : String) :
    createdName? (constraintStatement e property) = some (constraintName e.name property) := by
  unfold createdName? constraintStatement
  cases e with
  | node n =>
    have hbehind : Separates " IF NOT EXISTS FOR (n:" := separates_of_head rfl (by decide)
    simp only [String.toList_append, List.append_assoc, readText_append,
      readIdentifier_identifier _ (hbehind _), bind, Option.bind, pure]
  | relationship r =>
    have hbehind : Separates " IF NOT EXISTS FOR ()-[r:" := separates_of_head rfl (by decide)
    simp only [String.toList_append, List.append_assoc, readText_append,
      readIdentifier_identifier _ (hbehind _), bind, Option.bind, pure]

/-- Properties of one entity have one constraint name when their lower case forms are the same. -/
theorem constraintName_inj {label p q : String} :
    constraintName label p = constraintName label q ↔ Text.lowercase p = Text.lowercase q := by
  constructor
  · intro h
    have hlist := congrArg String.toList h
    simp only [constraintName, String.toList_append] at hlist
    exact String.toList_inj.1 (List.append_cancel_left hlist)
  · intro h
    unfold constraintName
    rw [h]

/-! ## The statements of a model -/

theorem map_createdName? (e : Entity) :
    (constraintStatements e).map createdName? = e.constraintNames.map some := by
  unfold constraintStatements Entity.constraintNames
  rw [List.map_map, List.map_map]
  exact List.map_congr_left fun p _ => createdName?_constraintStatement e p

theorem map_createdName?_ofModel (m : Model) (sizes : BatchSizes) :
    (Generator.ofModel m sizes).constraintStatements.map createdName? =
      (m.entities.flatMap Entity.constraintNames).map some := by
  show (m.entities.flatMap constraintStatements).map createdName? = _
  rw [List.map_flatMap, List.map_flatMap]
  exact congrArg m.entities.flatMap (funext map_createdName?)

/-- Names that two entities do not share are not created by both. -/
theorem createdName?_ne {e f : Entity}
    (h : ∀ name ∈ e.constraintNames, name ∉ f.constraintNames) :
    ∀ s ∈ constraintStatements e, ∀ t ∈ constraintStatements f,
      createdName? s ≠ createdName? t := by
  intro s hs t ht heq
  obtain ⟨p, hp, rfl⟩ := List.mem_map.1 hs
  obtain ⟨q, hq, rfl⟩ := List.mem_map.1 ht
  rw [createdName?_constraintStatement, createdName?_constraintStatement] at heq
  have hname : constraintName e.name p = constraintName f.name q := Option.some.inj heq
  exact h _ (List.mem_map_of_mem hp) (hname ▸ List.mem_map_of_mem hq)

theorem nodup_constraintNames (e : Entity) :
    e.constraintNames.Nodup ↔ (e.keyNames.map Text.lowercase).Nodup := by
  unfold Entity.constraintNames List.Nodup
  rw [List.pairwise_map, List.pairwise_map]
  simp only [ne_eq, constraintName_inj]

/-- Where entities share no names, the names are distinct if each entity's own are. -/
theorem nodup_createdNames (sizes : BatchSizes)
    (h : m.entities.Pairwise fun e f => ∀ name ∈ e.constraintNames, name ∉ f.constraintNames) :
    ((Generator.ofModel m sizes).constraintStatements.map createdName?).Nodup ↔
      ∀ e ∈ m.entities, (e.keyNames.map Text.lowercase).Nodup := by
  have hbetween : m.entities.Pairwise fun e f =>
      ∀ x ∈ e.constraintNames, ∀ y ∈ f.constraintNames, x ≠ y := by
    refine h.imp fun hef x hx y hy heq => ?_
    subst heq
    exact hef x hx hy
  rw [map_createdName?_ofModel]
  unfold List.Nodup
  rw [List.pairwise_map]
  simp only [ne_eq, Option.some.injEq]
  rw [List.pairwise_flatMap, and_iff_left hbetween]
  exact forall₂_congr fun e _ => nodup_constraintNames e

/-! ## Where the statements are written -/

theorem join_flatMap {α : Type} (f : α → List String) (l : List α) :
    String.join (l.flatMap f) = String.join (l.map fun x => String.join (f x)) := by
  induction l with
  | nil => rfl
  | cons x l ih => rw [List.flatMap_cons, String.join_append, ih, List.map_cons, String.join_cons]

theorem constraints_eq (m : Model) (sizes : BatchSizes) :
    constraints m =
      String.join ((Generator.ofModel m sizes).constraintStatements.map (· ++ ";\n")) := by
  show _ = String.join ((m.entities.flatMap constraintStatements).map (· ++ ";\n"))
  rw [List.map_flatMap, join_flatMap]
  rfl

theorem preIngest_eq {strategy : Strategy} {options : LoaderOptions} {before after : List String}
    {c : LoaderConfig} (h : LoaderConfig.ofModel m strategy options before after = .ok c) :
    c.preIngest = (Generator.ofModel m options.batchSizes).constraintStatements ++ before := by
  obtain ⟨files, -, hc⟩ := bind_eq_ok.1 h
  cases hc
  rfl

/-- **The constraint names of an accepted model.** Each statement creates the constraint of its
entity and property. Statements of two entities never create constraints of one name; two statements
of one entity do exactly when the names of the properties have one lower case form. So the names are
pairwise distinct exactly when no entity has two such properties in its key, and these are the
statements of the export of constraints and those that a loader runs first. -/
theorem accepted_constraint_names {v : AcceptedModel} (h : accept m a = .ok v)
    (sizes : BatchSizes) :
    let statements := (Generator.ofModel m sizes).constraintStatements
    statements.map createdName? = (m.entities.flatMap Entity.constraintNames).map some ∧
    (m.entities.Pairwise fun e f => ∀ s ∈ constraintStatements e, ∀ t ∈ constraintStatements f,
      createdName? s ≠ createdName? t) ∧
    (∀ e ∈ m.entities, ∀ p ∈ e.keyNames, ∀ q ∈ e.keyNames,
      createdName? (constraintStatement e p) = createdName? (constraintStatement e q) ↔
        Text.lowercase p = Text.lowercase q) ∧
    ((statements.map createdName?).Nodup ↔
      ∀ e ∈ m.entities, (e.keyNames.map Text.lowercase).Nodup) ∧
    constraints m = String.join (statements.map (· ++ ";\n")) ∧
    ∀ strategy options before after c,
      LoaderConfig.ofModel m strategy options before after = .ok c →
        c.preIngest = statements ++ before := by
  obtain ⟨rfl, rfl⟩ := accept_eq_ok_iff.1 h
  have hnames := (validate_eq_nil_iff.1 v.valid).names
  refine ⟨map_createdName?_ofModel _ _, hnames.imp createdName?_ne, fun e _ p _ q _ => ?_,
    nodup_createdNames sizes hnames, constraints_eq _ _, fun _ _ _ _ _ hc => preIngest_eq hc⟩
  rw [createdName?_constraintStatement, createdName?_constraintStatement, Option.some_inj,
    constraintName_inj]

/-! ## An entity with one name twice -/

/-- A node whose two keys differ in case only. -/
def twoCaseModel : Model :=
  ⟨⟨[⟨"A", [⟨"id", "x", none, "str", true⟩, ⟨"ID", "y", none, "str", true⟩], "file"⟩], []⟩,
    by decide⟩

/-- The conditions of `accepted_constraint_names` are met also by a model with a name twice. -/
theorem accepted_constraint_names_two_case :
    ∃ v, accept twoCaseModel (.flat ["x", "y"]) = .ok v ∧
      ∀ e ∈ twoCaseModel.entities, ∀ p ∈ e.keyNames, ∀ q ∈ e.keyNames,
        createdName? (constraintStatement e p) = createdName? (constraintStatement e q) ↔
          Text.lowercase p = Text.lowercase q :=
  have h : accept twoCaseModel (.flat ["x", "y"]) =
      .ok ⟨twoCaseModel, .flat ["x", "y"], by decide +kernel⟩ := accept_eq_ok_iff.2 ⟨rfl, rfl⟩
  ⟨_, h, (accepted_constraint_names h .default).2.2.1⟩

/-- **A constraint name may be taken twice**: the model is accepted, and its two statements create a
constraint of one name. -/
theorem constraint_name_taken_twice :
    let statements := (Generator.ofModel twoCaseModel .default).constraintStatements
    (∃ v, accept twoCaseModel (.flat ["x", "y"]) = .ok v) ∧
      statements.map createdName? = [some "a_id", some "a_id"] ∧
      ¬ (statements.map createdName?).Nodup := by
  intro statements
  have hnames : statements.map createdName? = [some "a_id", some "a_id"] := by
    rw [map_createdName?_ofModel]
    decide +kernel
  refine ⟨⟨⟨twoCaseModel, .flat ["x", "y"], by decide +kernel⟩, accept_eq_ok_iff.2 ⟨rfl, rfl⟩⟩,
    hnames, ?_⟩
  rw [hnames]
  decide

end GraphIngest.Cypher
