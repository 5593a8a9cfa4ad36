import GraphIngest.Proofs.CommandLine.Accepted
import GraphIngest.Proofs.Model.Construction

/-!
# What is listed against a document

Building a document fails with a list of issues. The list has a block for every entity, in the order
in which the entities are declared, and a block holds each issue as often as it stands against the
entity, told from the entities in front of it. So nothing is left out and nothing is listed twice,
however missing and repeated parts are mixed.

* `Entity.tally` — how often an issue stands against an entity, whatever issue it is;
* `Declarations.tallied_issues` — the issues of what a document declares, block by block;
* `Tallied.count_duplicateLabel` — a repeated label is listed once for every node behind the first;
* `build_lists_every_defect` — a document is built exactly when it is complete, and otherwise all
  that stands against it is listed; reading a text comes to the same verdict.
-/

namespace GraphIngest

open Text (isBlankText)

/-! ## Names that are repeated -/

/-- How often a name stands in a list behind an occurrence of it, in the list or among those seen
before. -/
def repeats (seen names : List String) (name : String) : Nat :=
  if name ∈ seen then names.count name else names.count name - 1

theorem repeats_nil (seen : List String) (name : String) : repeats seen [] name = 0 := by
  simp [repeats]

theorem repeats_cons_of_ne {seen names : List String} {first name : String} (h : first ≠ name) :
    repeats seen (first :: names) name = repeats seen names name := by
  simp [repeats, List.count_cons_of_ne h]

/-- A name that is added to those seen makes no difference to another one. -/
theorem repeats_seen_of_ne {seen names : List String} {first name : String} (h : first ≠ name) :
    repeats (first :: seen) names name = repeats seen names name := by
  simp [repeats, h.symm]

/-- Where a name stands among those seen makes no difference. -/
theorem repeats_append_seen (seen names : List String) (last name : String) :
    repeats (seen ++ [last]) names name = repeats (last :: seen) names name := by
  simp [repeats, or_comm]

/-- The first occurrence is a repetition if the name was seen, and all that follow it are. -/
theorem repeats_cons_self (seen names : List String) (name : String) :
    repeats seen (name :: names) name =
      (if name ∈ seen then 1 else 0) + repeats (name :: seen) names name := by
  unfold repeats
  rw [List.count_cons_self, if_pos List.mem_cons_self]
  split <;> omega

/-! ## The issues of properties -/

/-- A singleton under a condition holds its element once if the condition is met. -/
theorem count_singleton_if {α : Type} [DecidableEq α] (c : Prop) [Decidable c] (a b : α) :
    (if c then [a] else []).count b = if c ∧ a = b then 1 else 0 := by
  by_cases hc : c <;> by_cases hab : a = b <;> simp [hc, hab]

section

variable {entity ref : EntityRef} {seen : List String} {ps : List Property} {name : String}

theorem count_emptyPropertyName :
    (propertyIssues entity seen ps).count (.emptyPropertyName ref) =
      if entity = ref then ps.countP fun p => isBlankText p.name else 0 := by
  induction ps generalizing seen with
  | nil => simp [propertyIssues]
  | cons p ps ih =>
    rw [propertyIssues, List.countP_cons]
    by_cases hname : isBlankText p.name = true
    · rw [if_pos hname, if_pos hname, List.count_cons, ih]
      by_cases hentity : entity = ref <;> simp [hentity]
    · rw [if_neg hname, if_neg hname, List.count_append, List.count_append, count_singleton_if,
        count_singleton_if, ih]
      simp

theorem count_emptyColumn :
    (propertyIssues entity seen ps).count (.emptyColumn ref name) =
      if entity = ref ∧ isBlankText name = false then
        ps.countP fun p => p.name == name && isBlankText p.column
      else 0 := by
  induction ps generalizing seen with
  | nil => simp [propertyIssues]
  | cons p ps ih =>
    rw [propertyIssues, List.countP_cons]
    by_cases hname : isBlankText p.name = true
    · rw [if_pos hname, List.count_cons_of_ne (by simp), ih]
      -- A property without a name is not the one that the issue is about.
      by_cases hsame : p.name = name
      · simp [← hsame, hname]
      · simp [hsame]
    · rw [if_neg hname, List.count_append, List.count_append, count_singleton_if,
        count_singleton_if, ih]
      by_cases hsame : p.name = name
      · subst hsame
        by_cases hentity : entity = ref <;> simp [hentity, hname, Nat.add_comm]
      · simp [hsame]

theorem count_duplicateProperty :
    (propertyIssues entity seen ps).count (.duplicateProperty ref name) =
      if entity = ref ∧ isBlankText name = false then repeats seen (ps.map (·.name)) name
      else 0 := by
  induction ps generalizing seen with
  | nil => simp [propertyIssues, repeats_nil]
  | cons p ps ih =>
    rw [propertyIssues, List.map_cons]
    by_cases hname : isBlankText p.name = true
    · rw [if_pos hname, List.count_cons_of_ne (by simp), ih]
      by_cases hsame : p.name = name
      · simp [← hsame, hname]
      · rw [repeats_cons_of_ne hsame]
    · rw [if_neg hname, List.count_append, List.count_append, count_singleton_if,
        count_singleton_if, ih]
      by_cases hsame : p.name = name
      · subst hsame
        rw [repeats_cons_self]
        by_cases hentity : entity = ref <;> simp [hentity, hname]
      · rw [repeats_cons_of_ne hsame, repeats_seen_of_ne hsame]
        simp [hsame]

/-- The issues of properties are about properties of the entity. -/
theorem mem_propertyIssues {i : ConstructionIssue} (h : i ∈ propertyIssues entity seen ps) :
    i = .emptyPropertyName entity ∨
      ∃ name, i = .emptyColumn entity name ∨ i = .duplicateProperty entity name := by
  induction ps generalizing seen with
  | nil => cases h
  | cons p ps ih =>
    rw [propertyIssues] at h
    split at h
    · rcases List.mem_cons.1 h with rfl | h
      · exact .inl rfl
      · exact ih h
    · rcases List.mem_append.1 h with h | h
      · rcases List.mem_append.1 h with h | h
        · exact .inr ⟨p.name, .inl (by simpa using (List.mem_ite_nil_right.1 h).2)⟩
        · exact .inr ⟨p.name, .inr (by simpa using (List.mem_ite_nil_right.1 h).2)⟩
      · exact ih h

end

/-! ## The issues of an entity -/

namespace Entity

/-- A relationship without a source or without a target. -/
def endMissing : Entity → Bool
  | node _ => false
  | relationship r => isBlankText r.source || isBlankText r.target

/-- The labels of the nodes among entities. -/
def labels (es : List Entity) : List String := (es.filter (·.kind == .node)).map (·.name)

/-- How often an issue stands against an entity that is declared behind others. -/
def tally (before : List Entity) (e : Entity) : ConstructionIssue → Nat
  | .emptyName kind => if isBlankText e.name ∧ e.kind = kind then 1 else 0
  | .duplicateLabel label =>
    if e.kind = .node ∧ e.name = label ∧ isBlankText label = false ∧ label ∈ labels before then 1
    else 0
  | .missingEndpoint type => if e.endMissing ∧ e.name = type then 1 else 0
  | .emptyPropertyName ref =>
    if e.ref = ref then e.properties.countP fun p => isBlankText p.name else 0
  | .emptyColumn ref name =>
    if e.ref = ref ∧ isBlankText name = false then
      e.properties.countP fun p => p.name == name && isBlankText p.column
    else 0
  | .duplicateProperty ref name =>
    if e.ref = ref ∧ isBlankText name = false then e.propertyNames.count name - 1 else 0
  | .unknownDiagramNode _ _ => 0

@[simp] theorem kind_node (n : Node) : (node n).kind = .node := rfl

@[simp] theorem kind_relationship (r : Relationship) : (relationship r).kind = .relationship := rfl

@[simp] theorem name_node (n : Node) : (node n).name = n.label := rfl

@[simp] theorem name_relationship (r : Relationship) : (relationship r).name = r.type := rfl

@[simp] theorem endMissing_node (n : Node) : (node n).endMissing = false := rfl

@[simp] theorem endMissing_relationship (r : Relationship) :
    (relationship r).endMissing = (isBlankText r.source || isBlankText r.target) := rfl

@[simp] theorem labels_node_cons (n : Node) (es : List Entity) :
    labels (node n :: es) = n.label :: labels es := rfl

@[simp] theorem labels_relationship_cons (r : Relationship) (es : List Entity) :
    labels (relationship r :: es) = labels es := rfl

@[simp] theorem labels_nil : labels [] = [] := rfl

theorem labels_append (es fs : List Entity) : labels (es ++ fs) = labels es ++ labels fs := by
  simp [labels]

theorem labels_nodes (ns : List Node) : labels (ns.map .node) = ns.map (·.label) := by
  induction ns with
  | nil => rfl
  | cons n ns ih => rw [List.map_cons, List.map_cons, labels_node_cons, ih]

theorem labels_relationships (rs : List Relationship) : labels (rs.map .relationship) = [] := by
  induction rs with
  | nil => rfl
  | cons r rs ih => rw [List.map_cons, labels_relationship_cons, ih]

/-- An issue about a property of an entity. -/
def ofProperty : ConstructionIssue → Bool
  | .emptyPropertyName _ | .emptyColumn _ _ | .duplicateProperty _ _ => true
  | _ => false

/-- The issues of the properties are those of the entity that are about a property. -/
theorem count_propertyIssues (before : List Entity) (e : Entity) (i : ConstructionIssue) :
    e.propertyIssues.count i = if ofProperty i then e.tally before i else 0 := by
  unfold propertyIssues
  cases i with
  | emptyPropertyName ref => exact count_emptyPropertyName
  | emptyColumn ref name => exact count_emptyColumn
  | duplicateProperty ref name =>
    rw [count_duplicateProperty]
    simp [ofProperty, tally, repeats, propertyNames]
  | _ =>
    refine List.count_eq_zero.2 fun h => ?_
    obtain h | ⟨name, h | h⟩ := mem_propertyIssues h <;> cases h

end Entity

/-- The issues of a node's own label. -/
def Node.labelIssues (seen : List String) (n : Node) : List ConstructionIssue :=
  if isBlankText n.label then [.emptyName .node]
  else if n.label ∈ seen then [.duplicateLabel n.label] else []

theorem nodeIssues_cons (seen : List String) (n : Node) (ns : List Node) :
    nodeIssues seen (n :: ns) = (n.labelIssues seen ++ (Entity.node n).propertyIssues) ++
      nodeIssues (if isBlankText n.label then seen else n.label :: seen) ns := by
  rw [nodeIssues, Node.labelIssues]
  split
  · rfl
  · simp only [List.contains_eq_mem, decide_eq_true_eq]

section

variable {seen : List String} {before : List Entity}

/-- The issues of a node's label are those of the node that are not about a property. -/
theorem Node.count_labelIssues (n : Node)
    (hseen : ∀ label, isBlankText label = false → (label ∈ seen ↔ label ∈ Entity.labels before))
    (i : ConstructionIssue) :
    (n.labelIssues seen).count i =
      if Entity.ofProperty i then 0 else (Entity.node n).tally before i := by
  unfold labelIssues
  by_cases hblank : isBlankText n.label = true
  · rw [if_pos hblank]
    cases i with
    | emptyName kind => simp [hblank, Entity.ofProperty, Entity.tally, List.count_singleton]
    | duplicateLabel label =>
      -- The label that is repeated is not blank, so it is not the one of the node.
      have hne : ¬ (n.label = label ∧ isBlankText label = false) := by
        rintro ⟨rfl, hlabel⟩
        exact absurd hblank (Bool.eq_false_iff.1 hlabel)
      simp only [Entity.ofProperty, Entity.tally, Entity.name_node, ← and_assoc, hne, and_false,
        false_and]
      simp
    | _ => simp [Entity.ofProperty, Entity.tally]
  · rw [if_neg hblank, count_singleton_if]
    have hnonblank : isBlankText n.label = false := Bool.eq_false_iff.2 hblank
    cases i with
    | emptyName kind => simp [hblank, Entity.ofProperty, Entity.tally]
    | duplicateLabel label =>
      by_cases hsame : n.label = label
      · subst hsame
        simp [hnonblank, hseen _ hnonblank, Entity.ofProperty, Entity.tally]
      · simp [hsame, Entity.ofProperty, Entity.tally]
    | _ => simp [Entity.ofProperty, Entity.tally]

/-- **A node's block.** The issues of a node are listed as often as they stand against it, when the
labels seen are those of the nodes in front. -/
theorem Node.count_issues (n : Node)
    (hseen : ∀ label, isBlankText label = false → (label ∈ seen ↔ label ∈ Entity.labels before))
    (i : ConstructionIssue) :
    (n.labelIssues seen ++ (Entity.node n).propertyIssues).count i =
      (Entity.node n).tally before i := by
  rw [List.count_append, n.count_labelIssues hseen, Entity.count_propertyIssues before]
  split
  · exact Nat.zero_add _
  · exact Nat.add_zero _

/-- **A relationship's block.** The issues of a relationship are listed as often as they stand
against it, whatever is in front of it. -/
theorem Relationship.count_issues (before : List Entity) (r : Relationship)
    (i : ConstructionIssue) : r.issues.count i = (Entity.relationship r).tally before i := by
  unfold Relationship.issues
  rw [List.count_append, List.count_append, count_singleton_if, count_singleton_if,
    Entity.count_propertyIssues before]
  cases i with
  | emptyName kind => cases kind <;> simp [Entity.ofProperty, Entity.tally]
  | _ => simp [Entity.ofProperty, Entity.tally]

end

/-! ## The issues of a document -/

/-- Blocks of issues, one for every entity in their order. Each holds every issue as often as it
stands against its entity behind those in front. -/
def Tallied (before : List Entity) : List Entity → List (List ConstructionIssue) → Prop
  | [], blocks => blocks = []
  | _ :: _, [] => False
  | e :: es, block :: blocks =>
    (∀ i, block.count i = e.tally before i) ∧ Tallied (before ++ [e]) es blocks

/-- A label is listed as repeated once for every node that has it behind another. -/
theorem Tallied.count_duplicateLabel {before es : List Entity}
    {blocks : List (List ConstructionIssue)} {label : String} (h : Tallied before es blocks)
    (hlabel : isBlankText label = false) :
    blocks.flatten.count (.duplicateLabel label) =
      repeats (Entity.labels before) (Entity.labels es) label := by
  induction es generalizing before blocks with
  | nil =>
    cases h
    exact (repeats_nil _ _).symm
  | cons e es ih =>
    cases blocks with
    | nil => exact h.elim
    | cons block blocks =>
      obtain ⟨hblock, hblocks⟩ := h
      rw [List.flatten_cons, List.count_append, hblock, ih hblocks]
      cases e with
      | relationship r =>
        -- The labels are those of nodes, so a relationship neither adds nor repeats one.
        have htally : (Entity.relationship r).tally before (.duplicateLabel label) = 0 := by
          simp [Entity.tally]
        rw [htally, Nat.zero_add, Entity.labels_append, Entity.labels_relationship_cons,
          Entity.labels_relationship_cons, Entity.labels_nil, List.append_nil]
      | node n =>
        have htally : (Entity.node n).tally before (.duplicateLabel label) =
            if n.label = label ∧ label ∈ Entity.labels before then 1 else 0 := by
          simp [Entity.tally, hlabel]
        rw [htally, Entity.labels_append, Entity.labels_node_cons, Entity.labels_node_cons,
          Entity.labels_nil, repeats_append_seen]
        by_cases hsame : n.label = label
        · subst hsame
          rw [repeats_cons_self]
          simp
        · rw [repeats_cons_of_ne hsame, repeats_seen_of_ne hsame]
          simp [hsame]

theorem Tallied.append {before es fs : List Entity} {blocks more : List (List ConstructionIssue)}
    (hes : Tallied before es blocks) (hfs : Tallied (before ++ es) fs more) :
    Tallied before (es ++ fs) (blocks ++ more) := by
  induction es generalizing before blocks with
  | nil =>
    cases hes
    simpa using hfs
  | cons e es ih =>
    cases blocks with
    | nil => exact hes.elim
    | cons block blocks =>
      obtain ⟨hblock, hblocks⟩ := hes
      refine ⟨hblock, ih hblocks ?_⟩
      simpa using hfs

/-- The blocks of nodes that are declared behind others. -/
theorem tallied_nodeIssues (seen : List String) (before : List Entity) (ns : List Node)
    (hseen : ∀ label, isBlankText label = false → (label ∈ seen ↔ label ∈ Entity.labels before)) :
    ∃ blocks, blocks.flatten = nodeIssues seen ns ∧ Tallied before (ns.map .node) blocks := by
  induction ns generalizing seen before with
  | nil => exact ⟨[], rfl, rfl⟩
  | cons n ns ih =>
    rw [nodeIssues_cons]
    have hnext : ∀ label, isBlankText label = false →
        (label ∈ (if isBlankText n.label then seen else n.label :: seen) ↔
          label ∈ Entity.labels (before ++ [.node n])) := by
      intro label hlabel
      rw [Entity.labels_append, List.mem_append, ← hseen label hlabel, Entity.labels_node_cons,
        Entity.labels_nil, List.mem_singleton]
      by_cases hblank : isBlankText n.label = true
      · -- A blank label is none of those that can be repeated.
        have hne : label ≠ n.label := by
          rintro rfl
          simp [hblank] at hlabel
        simp [hblank, hne]
      · simp [hblank, or_comm]
    obtain ⟨blocks, hflatten, hblocks⟩ := ih _ _ hnext
    refine ⟨(n.labelIssues seen ++ (Entity.node n).propertyIssues) :: blocks, ?_, ?_, hblocks⟩
    · rw [List.flatten_cons, hflatten]
    · exact n.count_issues hseen

/-- The blocks of relationships. -/
theorem tallied_relationshipIssues (before : List Entity) (rs : List Relationship) :
    Tallied before (rs.map .relationship) (rs.map (·.issues)) := by
  induction rs generalizing before with
  | nil => rfl
  | cons r rs ih => exact ⟨r.count_issues before, ih _⟩

namespace Declarations

/-- Every node, then every relationship. -/
def entities (d : Declarations) : List Entity :=
  d.nodes.map .node ++ d.relationships.map .relationship

/-- **The issues of declarations** come block by block, nodes before relationships. -/
theorem tallied_issues (d : Declarations) :
    ∃ blocks, blocks.flatten = d.issues ∧ Tallied [] d.entities blocks := by
  obtain ⟨blocks, hflatten, hblocks⟩ :=
    tallied_nodeIssues [] [] d.nodes fun label _ => Iff.rfl
  refine ⟨blocks ++ d.relationships.map (·.issues), ?_, ?_⟩
  · rw [List.flatten_append, hflatten, ← List.flatMap_def]
    rfl
  · exact hblocks.append (tallied_relationshipIssues _ d.relationships)

/-- The labels of the entities are those of the nodes. -/
theorem labels_entities (d : Declarations) : Entity.labels d.entities = d.nodes.map (·.label) := by
  unfold entities
  rw [Entity.labels_append, Entity.labels_nodes, Entity.labels_relationships, List.append_nil]

end Declarations

namespace Document

/-- A list of issues says all that stands against a document and nothing else. -/
structure Lists (d : Document) (issues : List ConstructionIssue) : Prop where
  /-- There is a block for every entity in its place. -/
  blocks : ∃ blocks, blocks.flatten = issues ∧ Tallied [] d.declarations.entities blocks
  /-- A label is listed once for every node that has it behind another. -/
  repeated : ∀ label, isBlankText label = false →
    issues.count (.duplicateLabel label) = (d.nodes.map (·.label)).count label - 1

theorem lists_issues (d : Document) : d.Lists d.declarations.issues := by
  obtain ⟨blocks, hflatten, hblocks⟩ := d.declarations.tallied_issues
  have hlabels : d.declarations.nodes.map (·.label) = d.nodes.map (·.label) := List.map_map
  refine ⟨⟨blocks, hflatten, hblocks⟩, fun label hlabel => ?_⟩
  rw [← hflatten, hblocks.count_duplicateLabel hlabel, Declarations.labels_entities, hlabels]
  simp [repeats]

/-- What the result of building a document says about the document. -/
def Verdict (d : Document) : Except (List ConstructionIssue) Model → Prop
  | .ok m => d.Complete ∧ d.Describes m
  | .error issues => ¬ d.Complete ∧ issues ≠ [] ∧ d.Lists issues

theorem verdict_build (d : Document) : d.Verdict d.build := by
  cases h : d.build with
  | ok m =>
    have hdocument : m.document = d := build_eq_ok_iff.1 h
    exact ⟨hdocument ▸ m.document_complete, describes_iff.2 hdocument⟩
  | error issues =>
    obtain ⟨hne, rfl⟩ := build_eq_error_iff.1 h
    have hissues : d.Complete → d.declarations.issues = [] := fun hcomplete =>
      Declarations.issues_eq_nil_iff.2 (complete_iff.1 hcomplete)
    exact ⟨fun hcomplete => hne (hissues hcomplete), hne, d.lists_issues⟩

theorem exists_build_iff {d : Document} : (∃ m, d.build = .ok m) ↔ d.Complete := by
  constructor
  · rintro ⟨m, hm⟩
    have hverdict := d.verdict_build
    rw [hm] at hverdict
    exact hverdict.1
  · intro hcomplete
    have hissues : d.declarations.issues = [] :=
      Declarations.issues_eq_nil_iff.2 (complete_iff.1 hcomplete)
    exact ⟨⟨d.declarations, hissues⟩, Declarations.build_eq_ok_iff.2 rfl⟩

end Document

/-! ## Documents that are read -/

/-- A text is refused with the issues of the document that it holds. -/
theorem modelOfText_eq_construction_iff {s : String} {issues : List ConstructionIssue} :
    Model.ofText s = .error (.construction issues) ↔
      ∃ d, Document.ofText s = .ok d ∧ d.build = .error issues := by
  simp [CommandLine.modelOfText_eq_error_iff]

/-- A document that cannot be built is refused by the decoder of models, with the message about its
issues. -/
theorem decodeText_rejected {s : String} {d : Document} {issues : List ConstructionIssue}
    (hd : Document.ofText s = .ok d) (hbuild : d.build = .error issues) :
    Json.decodeText Model.decoder s =
      .error (.mismatch (.rejected (ConstructionIssue.summary issues))) := by
  obtain ⟨d', hdecoded, h⟩ := bind_eq_ok.1 hd
  obtain ⟨u, -, h⟩ := bind_eq_ok.1 h
  cases h
  refine bind_eq_error.2 (.inl ?_)
  refine bind_eq_error.2 (.inr ⟨d, hdecoded, ?_⟩)
  rw [hbuild]
  rfl

/-- **Building lists every defect.** A document is built exactly when it is complete, and it
describes the model, record by record and field by field. Otherwise the result is the list of all
that stands against it and of nothing else: a block for every entity in the order of their
declaration, nodes before relationships, with every issue as often as it stands against the entity.
A text comes to the same verdict as the document that it holds, whether a file of a model is read or
a model is decoded within another text. -/
theorem build_lists_every_defect :
    (∀ d : Document, ((∃ m, d.build = .ok m) ↔ d.Complete) ∧ d.Verdict d.build) ∧
    (∀ s m, Model.ofText s = .ok m ↔ ∃ d, Document.ofText s = .ok d ∧ d.build = .ok m) ∧
    (∀ s issues, Model.ofText s = .error (.construction issues) ↔
      ∃ d, Document.ofText s = .ok d ∧ d.build = .error issues) ∧
    (∀ s m, Json.decodeText Model.decoder s = .ok m ↔
      ∃ d, Document.ofText s = .ok d ∧ d.build = .ok m) ∧
    ∀ s d issues, Document.ofText s = .ok d → d.build = .error issues →
      Json.decodeText Model.decoder s =
        .error (.mismatch (.rejected (ConstructionIssue.summary issues))) :=
  ⟨fun d => ⟨Document.exists_build_iff, d.verdict_build⟩,
    fun _ _ => CommandLine.modelOfText_eq_ok_iff, fun _ _ => modelOfText_eq_construction_iff,
    fun _ _ => Model.decodeText_eq_ok_iff, fun _ _ _ => decodeText_rejected⟩

/-- Blank names among repeated ones, in a node, among labels and in a relationship. -/
def mixedDefects : Document :=
  ⟨[⟨"A", [⟨"id", "x", none, "str", true⟩, ⟨" ", "", none, "str", false⟩,
      ⟨"id", " ", none, "str", false⟩], "a.csv"⟩,
    ⟨"", [], "b.csv"⟩, ⟨"", [], "b.csv"⟩, ⟨"A", [], "c.csv"⟩],
   [⟨"", [], "A", "", "r.csv"⟩]⟩

theorem build_mixedDefects :
    mixedDefects.build = .error
      [.emptyPropertyName ⟨.node, "A"⟩, .emptyColumn ⟨.node, "A"⟩ "id",
        .duplicateProperty ⟨.node, "A"⟩ "id", .emptyName .node, .emptyName .node,
        .duplicateLabel "A", .emptyName .relationship, .missingEndpoint ""] :=
  Document.build_eq_error_iff.2 ⟨by decide, by decide⟩

/-- The text of such a document is refused with that list, and with the message about it. -/
theorem build_lists_every_defect_mixed :
    ∃ issues, mixedDefects.build = .error issues ∧ issues.length = 8 ∧
      Model.ofText mixedDefects.prettyText = .error (.construction issues) ∧
      Json.decodeText Model.decoder mixedDefects.compactText =
        .error (.mismatch (.rejected (ConstructionIssue.summary issues))) := by
  refine ⟨_, build_mixedDefects, rfl, ?_, ?_⟩
  · exact (build_lists_every_defect.2.2.1 _ _).2
      ⟨mixedDefects, mixedDefects.ofText_prettyText, build_mixedDefects⟩
  · exact build_lists_every_defect.2.2.2.2 _ _ _ mixedDefects.ofText_compactText build_mixedDefects

end GraphIngest
