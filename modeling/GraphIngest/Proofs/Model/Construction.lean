import GraphIngest.Model.Construction
import GraphIngest.Proofs.Basic

/-!
# What a built model guarantees

A model is made of declarations without issues. These are the ones that are complete: names, columns
and ends are not blank, and names that have to differ do. So the labels of a model's nodes are
distinct, and looking up a label finds the one node that has it:

* `Declarations.issues_eq_nil_iff` — declarations have no issues exactly when they are complete;
* `Model.labels_pairwise` — two nodes at different positions have different labels;
* `Model.node?_eq_some_iff` — a look-up finds exactly the node with the label;
* `Model.node?_eq_none_iff` — it finds nothing exactly when no node has the label.
-/

namespace GraphIngest

/-! ## Complete declarations -/

/-- The properties of an entity have names and columns, and no name stands twice. -/
structure Entity.Complete (e : Entity) : Prop where
  named : ∀ p ∈ e.properties, Text.isBlankText p.name = false
  mapped : ∀ p ∈ e.properties, Text.isBlankText p.column = false
  distinct : e.properties.Pairwise fun p q => p.name ≠ q.name

/-- Labels, types and ends are there, no label stands twice, and every entity is complete. -/
structure Declarations.Complete (d : Declarations) : Prop where
  labelled : ∀ n ∈ d.nodes, Text.isBlankText n.label = false
  distinct : d.nodes.Pairwise fun a b => a.label ≠ b.label
  typed : ∀ r ∈ d.relationships, Text.isBlankText r.type = false
  ended : ∀ r ∈ d.relationships,
    Text.isBlankText r.source = false ∧ Text.isBlankText r.target = false
  nodes : ∀ n ∈ d.nodes, (Entity.node n).Complete
  relationships : ∀ r ∈ d.relationships, (Entity.relationship r).Complete

/-- The keys of a list are distinct, and none of them was seen before. -/
def Fresh {α : Type} (key : α → String) (seen : List String) (l : List α) : Prop :=
  (∀ a ∈ l, key a ∉ seen) ∧ l.Pairwise fun a b => key a ≠ key b

theorem fresh_nil {α : Type} (key : α → String) (seen : List String) : Fresh key seen [] :=
  ⟨by simp, .nil⟩

/-- What was seen grows by the key of the first element. -/
theorem fresh_cons {α : Type} {key : α → String} {seen : List String} {a : α} {l : List α} :
    Fresh key seen (a :: l) ↔ key a ∉ seen ∧ Fresh key (key a :: seen) l := by
  unfold Fresh
  rw [List.forall_mem_cons, List.pairwise_cons]
  constructor
  · rintro ⟨⟨ha, hseen⟩, hne, hpair⟩
    refine ⟨ha, fun b hb hmem => ?_, hpair⟩
    rcases List.mem_cons.1 hmem with heq | hmem
    · exact hne b hb heq.symm
    · exact hseen b hb hmem
  · rintro ⟨ha, hseen, hpair⟩
    refine ⟨⟨ha, fun b hb hmem => ?_⟩, fun b hb heq => ?_, hpair⟩
    · exact hseen b hb (List.mem_cons_of_mem _ hmem)
    · exact hseen b hb (heq ▸ List.mem_cons_self)

theorem propertyIssues_eq_nil_iff {entity : EntityRef} {seen : List String} {ps : List Property} :
    propertyIssues entity seen ps = [] ↔
      (∀ p ∈ ps, Text.isBlankText p.name = false ∧ Text.isBlankText p.column = false) ∧
        Fresh (·.name) seen ps := by
  induction ps generalizing seen with
  | nil => simp [propertyIssues, fresh_nil]
  | cons p ps ih =>
    rw [propertyIssues, List.forall_mem_cons, fresh_cons]
    split
    · rename_i hblank
      simp [hblank]
    · rename_i hname
      rw [List.append_eq_nil_iff, List.append_eq_nil_iff, ih]
      simp only [hname, List.contains_eq_mem, decide_eq_true_eq, ite_eq_right_iff, reduceCtorEq,
        imp_false, Bool.not_eq_true, true_and]
      exact and_and_and_comm

theorem Entity.propertyIssues_eq_nil_iff {e : Entity} : e.propertyIssues = [] ↔ e.Complete := by
  unfold Entity.propertyIssues
  rw [GraphIngest.propertyIssues_eq_nil_iff]
  constructor
  · rintro ⟨hnames, -, hdistinct⟩
    exact ⟨fun p hp => (hnames p hp).1, fun p hp => (hnames p hp).2, hdistinct⟩
  · rintro ⟨hnamed, hmapped, hdistinct⟩
    exact ⟨fun p hp => ⟨hnamed p hp, hmapped p hp⟩, by simp, hdistinct⟩

theorem nodeIssues_eq_nil_iff {seen : List String} {ns : List Node} :
    nodeIssues seen ns = [] ↔
      (∀ n ∈ ns, Text.isBlankText n.label = false ∧ (Entity.node n).Complete) ∧
        Fresh (·.label) seen ns := by
  induction ns generalizing seen with
  | nil => simp [nodeIssues, fresh_nil]
  | cons n ns ih =>
    rw [nodeIssues, List.forall_mem_cons, fresh_cons]
    split
    · rename_i hblank
      simp [hblank]
    · rename_i hlabel
      rw [List.append_eq_nil_iff, List.append_eq_nil_iff, ih, Entity.propertyIssues_eq_nil_iff]
      simp only [hlabel, List.contains_eq_mem, decide_eq_true_eq, ite_eq_right_iff, reduceCtorEq,
        imp_false, true_and]
      constructor
      · rintro ⟨⟨hseen, hn⟩, hns, hfresh⟩
        exact ⟨⟨hn, hns⟩, hseen, hfresh⟩
      · rintro ⟨⟨hn, hns⟩, hseen, hfresh⟩
        exact ⟨⟨hseen, hn⟩, hns, hfresh⟩

theorem Relationship.issues_eq_nil_iff {r : Relationship} :
    r.issues = [] ↔ Text.isBlankText r.type = false ∧
      (Text.isBlankText r.source = false ∧ Text.isBlankText r.target = false) ∧
        (Entity.relationship r).Complete := by
  unfold Relationship.issues
  rw [List.append_eq_nil_iff, List.append_eq_nil_iff, Entity.propertyIssues_eq_nil_iff, and_assoc]
  simp

/-- **Declarations have no issues exactly when they are complete.** -/
theorem Declarations.issues_eq_nil_iff {d : Declarations} : d.issues = [] ↔ d.Complete := by
  unfold Declarations.issues
  rw [List.append_eq_nil_iff, nodeIssues_eq_nil_iff, List.flatMap_eq_nil_iff]
  simp only [Relationship.issues_eq_nil_iff]
  constructor
  · rintro ⟨⟨hnodes, -, hdistinct⟩, hrelationships⟩
    exact ⟨fun n hn => (hnodes n hn).1, hdistinct, fun r hr => (hrelationships r hr).1,
      fun r hr => (hrelationships r hr).2.1, fun n hn => (hnodes n hn).2,
      fun r hr => (hrelationships r hr).2.2⟩
  · rintro ⟨hlabelled, hdistinct, htyped, hended, hnodes, hrelationships⟩
    exact ⟨⟨fun n hn => ⟨hlabelled n hn, hnodes n hn⟩, by simp, hdistinct⟩,
      fun r hr => ⟨htyped r hr, hended r hr, hrelationships r hr⟩⟩

/-! ## Models -/

namespace Model

variable {m : Model}

/-- The declarations of a model are complete. -/
theorem declared_complete (m : Model) : m.declared.Complete :=
  Declarations.issues_eq_nil_iff.1 m.complete

/-- The labels of a model's nodes are distinct. -/
theorem labels_pairwise (m : Model) : m.nodes.Pairwise fun a b => a.label ≠ b.label :=
  m.declared_complete.distinct

/-- **A look-up finds exactly the node with the label.** -/
theorem node?_eq_some_iff {label : String} {n : Node} :
    m.node? label = some n ↔ n ∈ m.nodes ∧ n.label = label := by
  unfold node?
  constructor
  · intro h
    exact ⟨List.mem_of_find?_eq_some h, by simpa using List.find?_some h⟩
  · rintro ⟨hn, rfl⟩
    exact Keyed.find?_of_mem m.labels_pairwise hn

theorem node?_eq_none_iff {label : String} :
    m.node? label = none ↔ ∀ n ∈ m.nodes, n.label ≠ label := by
  unfold node?
  simp [List.find?_eq_none]

/-- The nodes with a label are the one that a look-up finds, if there is one. -/
theorem filter_label (m : Model) (label : String) :
    m.nodes.filter (·.label == label) = (m.node? label).toList :=
  Keyed.filter_eq_find? m.labels_pairwise label

theorem mem_entities {e : Entity} :
    e ∈ m.entities ↔ (∃ n ∈ m.nodes, e = .node n) ∨ ∃ r ∈ m.relationships, e = .relationship r := by
  simp [entities, eq_comm]

end Model

end GraphIngest
