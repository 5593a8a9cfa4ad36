import GraphIngest.Model.Document
import GraphIngest.Proofs.Model.Construction

/-!
# Documents and the models they are written for

A record describes an entity when they agree in every field, lists by position. The two ways between
records and entities both keep to that: the entity of a record is the one that the record describes,
and the record of an entity is the one that describes it. So a document is built to a model exactly
when it describes the model, and a model has exactly one document.

* `NodeRecord.describes_iff`, `NodeRecord.describes_ofNode_iff` — a record describes its own node
  alone, and a node is described by its own record alone; likewise for the others;
* `Document.build_eq_ok_iff` — a document is built to a model when it is the document of the model;
* `Document.describes_iff` — that is, when it describes the model;
* `Document.complete_iff` — a document is complete when what it declares is.
-/

namespace GraphIngest

/-! ## What records describe -/

/-- A record of a property agrees with it. -/
structure PropertyRecord.Describes (r : PropertyRecord) (p : Property) : Prop where
  name : r.name = p.name
  column : r.column = p.column
  otherColumn : r.otherColumn = p.otherColumn
  type : r.type = p.type
  isUnique : r.isUnique = p.isUnique

/-- A record of a node agrees with it. -/
structure NodeRecord.Describes (r : NodeRecord) (n : Node) : Prop where
  label : r.label = n.label
  properties : List.Forall₂ PropertyRecord.Describes r.properties n.properties
  sourceName : r.sourceName = n.sourceName

/-- A record of a relationship agrees with it. -/
structure RelationshipRecord.Describes (r : RelationshipRecord) (e : Relationship) : Prop where
  type : r.type = e.type
  properties : List.Forall₂ PropertyRecord.Describes r.properties e.properties
  source : r.source = e.source
  target : r.target = e.target
  sourceName : r.sourceName = e.sourceName

/-- The records of a document agree with the nodes and the relationships of a model. -/
structure Document.Describes (d : Document) (m : Model) : Prop where
  nodes : List.Forall₂ NodeRecord.Describes d.nodes m.nodes
  relationships : List.Forall₂ RelationshipRecord.Describes d.relationships m.relationships

/-- Each element of a list has one partner when each of them has one on its own. -/
theorem forall₂_iff_map_left {α β : Type} {R : α → β → Prop} {f : α → β}
    (h : ∀ a b, R a b ↔ f a = b) {l : List α} {l' : List β} :
    List.Forall₂ R l l' ↔ l.map f = l' := by
  have hR : R = fun a b => f a = b := funext fun a => funext fun b => propext (h a b)
  rw [hR, ← List.forall₂_map_left_iff, List.forall₂_eq_eq_eq]

/-- Each element of the other list has one partner when each of them has one on its own. -/
theorem forall₂_iff_map_right {α β : Type} {R : α → β → Prop} {g : β → α}
    (h : ∀ a b, R a b ↔ g b = a) {l : List α} {l' : List β} :
    List.Forall₂ R l l' ↔ l'.map g = l := by
  have hR : R = fun a b => a = g b :=
    funext fun a => funext fun b => propext ((h a b).trans eq_comm)
  rw [hR, ← List.forall₂_map_right_iff, List.forall₂_eq_eq_eq, eq_comm]

namespace PropertyRecord

/-- The property of a record has what the record says. -/
theorem property_eq (r : PropertyRecord) :
    r.property = ⟨r.name, r.column, r.otherColumn, r.type, r.isUnique⟩ := by
  obtain ⟨name, column, otherColumn, type, isUnique⟩ := r
  cases otherColumn <;> cases isUnique <;> rfl

theorem describes_iff (r : PropertyRecord) (p : Property) : r.Describes p ↔ r.property = p := by
  rw [property_eq]
  constructor
  · rintro ⟨hname, hcolumn, hother, htype, hunique⟩
    rw [hname, hcolumn, hother, htype, hunique]
  · rintro rfl
    exact ⟨rfl, rfl, rfl, rfl, rfl⟩

theorem describes_ofProperty_iff (r : PropertyRecord) (p : Property) :
    r.Describes p ↔ ofProperty p = r := by
  constructor
  · rintro ⟨hname, hcolumn, hother, htype, hunique⟩
    rw [ofProperty, ← hname, ← hcolumn, ← hother, ← htype, ← hunique]
  · rintro rfl
    exact ⟨rfl, rfl, rfl, rfl, rfl⟩

end PropertyRecord

namespace NodeRecord

theorem describes_iff (r : NodeRecord) (n : Node) : r.Describes n ↔ r.node = n := by
  constructor
  · rintro ⟨hlabel, hproperties, hsource⟩
    rw [forall₂_iff_map_left PropertyRecord.describes_iff] at hproperties
    unfold node
    rw [hproperties, hlabel, hsource]
    rfl
  · rintro rfl
    exact ⟨rfl, (forall₂_iff_map_left PropertyRecord.describes_iff).2 rfl, rfl⟩

theorem describes_ofNode_iff (r : NodeRecord) (n : Node) : r.Describes n ↔ ofNode n = r := by
  constructor
  · rintro ⟨hlabel, hproperties, hsource⟩
    rw [forall₂_iff_map_right PropertyRecord.describes_ofProperty_iff] at hproperties
    rw [ofNode, hproperties, ← hlabel, ← hsource]
  · rintro rfl
    exact ⟨rfl, (forall₂_iff_map_right PropertyRecord.describes_ofProperty_iff).2 rfl,
      rfl⟩

end NodeRecord

namespace RelationshipRecord

theorem describes_iff (r : RelationshipRecord) (e : Relationship) :
    r.Describes e ↔ r.relationship = e := by
  constructor
  · rintro ⟨htype, hproperties, hsource, htarget, hname⟩
    rw [forall₂_iff_map_left PropertyRecord.describes_iff] at hproperties
    unfold relationship
    rw [hproperties, htype, hsource, htarget, hname]
    rfl
  · rintro rfl
    exact ⟨rfl, (forall₂_iff_map_left PropertyRecord.describes_iff).2 rfl, rfl, rfl,
      rfl⟩

theorem describes_ofRelationship_iff (r : RelationshipRecord) (e : Relationship) :
    r.Describes e ↔ ofRelationship e = r := by
  constructor
  · rintro ⟨htype, hproperties, hsource, htarget, hname⟩
    rw [forall₂_iff_map_right PropertyRecord.describes_ofProperty_iff] at hproperties
    rw [ofRelationship, hproperties, ← htype, ← hsource, ← htarget, ← hname]
  · rintro rfl
    exact ⟨rfl, (forall₂_iff_map_right PropertyRecord.describes_ofProperty_iff).2 rfl,
      rfl, rfl, rfl⟩

end RelationshipRecord

/-! ## Documents of models -/

namespace Document

variable {d : Document} {m : Model}

/-- **A document describes a model** when it is the document of the model. -/
theorem describes_iff : d.Describes m ↔ m.document = d := by
  constructor
  · rintro ⟨hnodes, hrelationships⟩
    rw [forall₂_iff_map_right NodeRecord.describes_ofNode_iff] at hnodes
    rw [forall₂_iff_map_right RelationshipRecord.describes_ofRelationship_iff] at hrelationships
    rw [Model.document, hnodes, hrelationships]
  · rintro rfl
    exact ⟨(forall₂_iff_map_right NodeRecord.describes_ofNode_iff).2 rfl,
      (forall₂_iff_map_right RelationshipRecord.describes_ofRelationship_iff).2 rfl⟩

/-- A document describes a model when it declares what the model declares. -/
theorem describes_iff_declared : d.Describes m ↔ m.declared = d.declarations := by
  constructor
  · rintro ⟨hnodes, hrelationships⟩
    rw [forall₂_iff_map_left NodeRecord.describes_iff] at hnodes
    rw [forall₂_iff_map_left RelationshipRecord.describes_iff] at hrelationships
    rw [declarations, hnodes, hrelationships]
    rfl
  · intro h
    have hnodes : d.nodes.map (·.node) = m.nodes := congrArg Declarations.nodes h.symm
    have hrelationships : d.relationships.map (·.relationship) = m.relationships :=
      congrArg Declarations.relationships h.symm
    exact ⟨(forall₂_iff_map_left NodeRecord.describes_iff).2 hnodes,
      (forall₂_iff_map_left RelationshipRecord.describes_iff).2 hrelationships⟩

/-- **A document is built to a model** exactly when it is the document of the model. -/
theorem build_eq_ok_iff : d.build = .ok m ↔ m.document = d :=
  calc d.build = .ok m
    _ ↔ m.declared = d.declarations := Declarations.build_eq_ok_iff
    _ ↔ d.Describes m := describes_iff_declared.symm
    _ ↔ m.document = d := describes_iff

theorem build_eq_error_iff {issues : List ConstructionIssue} :
    d.build = .error issues ↔ issues ≠ [] ∧ d.declarations.issues = issues :=
  Declarations.build_eq_error_iff

end Document

/-- The document of a model declares what the model declares. -/
theorem Model.declarations_document (m : Model) : m.document.declarations = m.declared :=
  (Document.describes_iff_declared.1 (Document.describes_iff.2 rfl)).symm

/-! ## Complete documents -/

/-- Records of properties have names and columns, and no name stands twice. -/
structure PropertyRecord.AllComplete (rs : List PropertyRecord) : Prop where
  named : ∀ r ∈ rs, Text.isBlankText r.name = false
  mapped : ∀ r ∈ rs, Text.isBlankText r.column = false
  distinct : rs.Pairwise fun r r' => r.name ≠ r'.name

/-- Labels, types and ends are there, no label stands twice, and so it is with the properties of
every record. -/
structure Document.Complete (d : Document) : Prop where
  labelled : ∀ n ∈ d.nodes, Text.isBlankText n.label = false
  distinct : d.nodes.Pairwise fun a b => a.label ≠ b.label
  typed : ∀ r ∈ d.relationships, Text.isBlankText r.type = false
  ended : ∀ r ∈ d.relationships,
    Text.isBlankText r.source = false ∧ Text.isBlankText r.target = false
  nodes : ∀ n ∈ d.nodes, PropertyRecord.AllComplete n.properties
  relationships : ∀ r ∈ d.relationships, PropertyRecord.AllComplete r.properties

/-- Records of properties are complete when the entity with these properties is. -/
theorem PropertyRecord.allComplete_iff {rs : List PropertyRecord} {e : Entity}
    (he : e.properties = rs.map (·.property)) : AllComplete rs ↔ e.Complete := by
  have hnamed : (∀ p ∈ e.properties, Text.isBlankText p.name = false) ↔
      ∀ r ∈ rs, Text.isBlankText r.name = false := by
    simp [he, property_eq]
  have hmapped : (∀ p ∈ e.properties, Text.isBlankText p.column = false) ↔
      ∀ r ∈ rs, Text.isBlankText r.column = false := by
    simp [he, property_eq]
  have hdistinct : (e.properties.Pairwise fun p q => p.name ≠ q.name) ↔
      rs.Pairwise fun r r' => r.name ≠ r'.name := by
    simp [he, property_eq, List.pairwise_map]
  constructor
  · rintro ⟨h₁, h₂, h₃⟩
    exact ⟨hnamed.2 h₁, hmapped.2 h₂, hdistinct.2 h₃⟩
  · rintro ⟨h₁, h₂, h₃⟩
    exact ⟨hnamed.1 h₁, hmapped.1 h₂, hdistinct.1 h₃⟩

/-- **A document is complete** exactly when what it declares is. -/
theorem Document.complete_iff {d : Document} : d.Complete ↔ d.declarations.Complete := by
  have hnode : ∀ n : NodeRecord,
      PropertyRecord.AllComplete n.properties ↔ (Entity.node n.node).Complete :=
    fun _ => PropertyRecord.allComplete_iff rfl
  have hrelationship : ∀ r : RelationshipRecord,
      PropertyRecord.AllComplete r.properties ↔ (Entity.relationship r.relationship).Complete :=
    fun _ => PropertyRecord.allComplete_iff rfl
  constructor
  · rintro ⟨hlabelled, hdistinct, htyped, hended, hnodes, hrelationships⟩
    exact ⟨List.forall_mem_map.2 hlabelled, List.pairwise_map.2 hdistinct,
      List.forall_mem_map.2 htyped, List.forall_mem_map.2 hended,
      List.forall_mem_map.2 fun n hn => (hnode n).1 (hnodes n hn),
      List.forall_mem_map.2 fun r hr => (hrelationship r).1 (hrelationships r hr)⟩
  · rintro ⟨hlabelled, hdistinct, htyped, hended, hnodes, hrelationships⟩
    have hlabels : d.nodes.Pairwise fun a b => a.node.label ≠ b.node.label := by
      simpa only [declarations, List.pairwise_map] using hdistinct
    exact ⟨List.forall_mem_map.1 hlabelled, hlabels,
      List.forall_mem_map.1 htyped, List.forall_mem_map.1 hended,
      fun n hn => (hnode n).2 (List.forall_mem_map.1 hnodes n hn),
      fun r hr => (hrelationship r).2 (List.forall_mem_map.1 hrelationships r hr)⟩

/-- The document of a model is complete. -/
theorem Model.document_complete (m : Model) : m.document.Complete :=
  Document.complete_iff.2 (m.declarations_document ▸ m.declared_complete)

end GraphIngest
