import Mathlib.Data.List.Forall2
import GraphIngest.Proofs.Diagram.Property
import GraphIngest.Proofs.Validation.Report

/-!
# Diagrams read back

The diagram of a model keeps its nodes and relationships with their labels, types and ends, since
the ends go through the positions of the nodes. What it keeps of an entity besides depends on the
texts of the properties and of the source.

* `decode_encodeEntity_iff` — the properties and the source of an entity are read back exactly when
  the entity is legible;
* `declarations_ofModel` — what the diagram of a model declares;
* `toModel_ofModel_iff` — the diagram of a model is read back as the model exactly when all its
  entities are legible;
* `accepted_diagram_read_back` — what that says about accepted models;
* `accepted_diagram_not_kept` — some of them are not read back.
-/

namespace GraphIngest

/-! ## Entities -/

/-- An entity whose texts can be taken apart again: its properties are legible, none of them has the
reserved name, and there are no blanks around the name of the source. -/
structure Entity.Legible (e : Entity) : Prop where
  names : ∀ p ∈ e.properties, p.name ≠ Diagram.sourceKey
  properties : ∀ p ∈ e.properties, p.Legible
  source : Text.trim e.sourceName = e.sourceName

/-- Every entity of the model is legible. -/
def Model.Legible (m : Model) : Prop := ∀ e ∈ m.entities, e.Legible

/-- Every relationship ends at labels of nodes. -/
def Model.EndsDeclared (m : Model) : Prop :=
  ∀ r ∈ m.relationships, ∀ role, ∃ n ∈ m.nodes, n.label = r.endLabel role

/-- The node that the texts of a node stand for. -/
def Node.reread (n : Node) : Node where
  label := n.label
  properties := Diagram.decodeProperties (Diagram.encodeEntity (.node n))
  sourceName := Diagram.decodeSource (Diagram.encodeEntity (.node n))

/-- The relationship that the texts of a relationship stand for. -/
def Relationship.reread (r : Relationship) : Relationship where
  type := r.type
  properties := Diagram.decodeProperties (Diagram.encodeEntity (.relationship r))
  source := r.source
  target := r.target
  sourceName := Diagram.decodeSource (Diagram.encodeEntity (.relationship r))

/-- The declarations with the properties and sources that their texts stand for. -/
def Declarations.reread (d : Declarations) : Declarations :=
  ⟨d.nodes.map Node.reread, d.relationships.map Relationship.reread⟩

namespace Diagram

variable {m : Model} {a : AllowedColumns}

/-- The entry of the source, if there is one. -/
def sourceEntries (e : Entity) : List (String × String) :=
  if e.sourceName = SourceFile.defaultName then [] else [(sourceKey, e.sourceName)]

theorem encodeEntity_eq (e : Entity) :
    encodeEntity e = e.properties.map encodeProperty ++ sourceEntries e := rfl

theorem mem_sourceEntries {e : Entity} {x : String × String} (h : x ∈ sourceEntries e) :
    x = (sourceKey, e.sourceName) := by
  unfold sourceEntries at h
  split at h
  · cases h
  · exact List.mem_singleton.1 h

theorem decodeProperties_encodeEntity {e : Entity} (h : e.Legible) :
    decodeProperties (encodeEntity e) = e.properties := by
  have hkeep : (e.properties.map encodeProperty).filter (·.1 != sourceKey) =
      e.properties.map encodeProperty := by
    refine List.filter_eq_self.2 fun x hx => ?_
    obtain ⟨p, hp, rfl⟩ := List.mem_map.1 hx
    exact bne_iff_ne.2 (h.names p hp)
  have hdrop : (sourceEntries e).filter (·.1 != sourceKey) = [] := by
    refine List.filter_eq_nil_iff.2 fun x hx => ?_
    rw [mem_sourceEntries hx]
    simp
  unfold decodeProperties
  rw [encodeEntity_eq, List.filter_append, hkeep, hdrop, List.append_nil, List.map_map]
  calc e.properties.map _ = e.properties.map id :=
        List.map_congr_left fun p hp => decodeProperty_encodeProperty (h.properties p hp)
    _ = e.properties := List.map_id _

theorem decodeSource_encodeEntity {e : Entity} (h : e.Legible) :
    decodeSource (encodeEntity e) = e.sourceName := by
  have hdrop : (e.properties.map encodeProperty).filter (·.1 == sourceKey) = [] := by
    refine List.filter_eq_nil_iff.2 fun x hx => ?_
    obtain ⟨p, hp, rfl⟩ := List.mem_map.1 hx
    have hname : p.name ≠ sourceKey := h.names p hp
    simpa [encodeProperty] using hname
  have hkeep : (sourceEntries e).filter (·.1 == sourceKey) = sourceEntries e := by
    refine List.filter_eq_self.2 fun x hx => ?_
    rw [mem_sourceEntries hx]
    exact beq_self_eq_true _
  unfold decodeSource
  rw [encodeEntity_eq, List.filter_append, hdrop, hkeep, List.nil_append]
  unfold sourceEntries
  by_cases hdefault : e.sourceName = SourceFile.defaultName
  · rw [if_pos hdefault]
    exact hdefault.symm
  · rw [if_neg hdefault]
    exact h.source

theorem name_foldl_applyFlag (p : Property) (flags : List String) :
    (flags.foldl applyFlag p).name = p.name := by
  induction flags generalizing p with
  | nil => rfl
  | cons flag flags ih =>
    have hname : (applyFlag p flag).name = p.name := by
      unfold applyFlag
      split
      · rfl
      · split <;> rfl
    rw [List.foldl_cons, ih, hname]

theorem name_decodeProperty (name value : String) : (decodeProperty name value).name = name := by
  unfold decodeProperty
  split
  · rfl
  · rfl
  · exact name_foldl_applyFlag _ _

/-- No property that is read has the reserved name, and all of them are legible. -/
theorem legible_of_mem_decodeProperties {entries : List (String × String)} {p : Property}
    (h : p ∈ decodeProperties entries) : p.name ≠ sourceKey ∧ p.Legible := by
  obtain ⟨x, hx, rfl⟩ := List.mem_map.1 h
  refine ⟨?_, legible_decodeProperty _ _⟩
  rw [name_decodeProperty]
  exact bne_iff_ne.1 (List.mem_filter.1 hx).2

/-- A source that is read has no blanks around it. -/
theorem trim_decodeSource (entries : List (String × String)) :
    Text.trim (decodeSource entries) = decodeSource entries := by
  unfold decodeSource
  split
  · unfold Text.trim
    rw [String.toList_ofList, Text.trimChars_trimChars]
  · decide

/-- An entity whose properties and source were read from texts is legible. -/
theorem legible_of_decoded {e : Entity} (entries : List (String × String))
    (hproperties : e.properties = decodeProperties entries)
    (hsource : e.sourceName = decodeSource entries) : e.Legible := by
  have hall : ∀ p ∈ e.properties, p.name ≠ sourceKey ∧ p.Legible := by
    intro p hp
    rw [hproperties] at hp
    exact legible_of_mem_decodeProperties hp
  refine ⟨fun p hp => (hall p hp).1, fun p hp => (hall p hp).2, ?_⟩
  rw [hsource]
  exact trim_decodeSource entries

/-- **The texts of an entity are read back** exactly when it is legible. -/
theorem decode_encodeEntity_iff {e : Entity} :
    (decodeProperties (encodeEntity e) = e.properties ∧
      decodeSource (encodeEntity e) = e.sourceName) ↔ e.Legible := by
  constructor
  · rintro ⟨hproperties, hsource⟩
    exact legible_of_decoded _ hproperties.symm hsource.symm
  · exact fun h => ⟨decodeProperties_encodeEntity h, decodeSource_encodeEntity h⟩

theorem reread_node_iff {n : Node} : n.reread = n ↔ (Entity.node n).Legible := by
  rw [← decode_encodeEntity_iff]
  constructor
  · intro h
    exact ⟨congrArg Node.properties h, congrArg Node.sourceName h⟩
  · rintro ⟨hproperties, hsource⟩
    unfold Node.reread
    rw [hproperties, hsource]
    rfl

theorem reread_relationship_iff {r : Relationship} :
    r.reread = r ↔ (Entity.relationship r).Legible := by
  rw [← decode_encodeEntity_iff]
  constructor
  · intro h
    exact ⟨congrArg Relationship.properties h, congrArg Relationship.sourceName h⟩
  · rintro ⟨hproperties, hsource⟩
    unfold Relationship.reread
    rw [hproperties, hsource]
    rfl

theorem map_eq_self_iff {α : Type} {f : α → α} {l : List α} :
    l.map f = l ↔ ∀ x ∈ l, f x = x := by
  conv => lhs; rhs; rw [← List.map_id l]
  exact List.map_inj_left

theorem reread_declared_iff : m.declared.reread = m.declared ↔ m.Legible := by
  have hdeclared : m.declared.reread = m.declared ↔
      m.nodes.map Node.reread = m.nodes ∧
        m.relationships.map Relationship.reread = m.relationships :=
    iff_of_eq (Declarations.mk.injEq ..)
  rw [hdeclared, map_eq_self_iff, map_eq_self_iff]
  unfold Model.Legible
  simp only [reread_node_iff, reread_relationship_iff, Model.mem_entities]
  constructor
  · rintro ⟨hnodes, hrelationships⟩ e (⟨n, hn, rfl⟩ | ⟨r, hr, rfl⟩)
    · exact hnodes n hn
    · exact hrelationships r hr
  · intro h
    exact ⟨fun n hn => h _ (.inl ⟨n, hn, rfl⟩), fun r hr => h _ (.inr ⟨r, hr, rfl⟩)⟩

/-! ## Ids -/

theorem nodeId_inj {i j : Nat} (h : nodeId i = nodeId j) : i = j := by
  have htexts : "n".toList ++ (toString i).toList = "n".toList ++ (toString j).toList := by
    rw [← String.toList_append, ← String.toList_append]
    exact congrArg String.toList h
  have hdigits : Nat.toDigits 10 i = Nat.toDigits 10 j := by
    simpa [Nat.toString_eq_ofList_toDigits] using List.append_cancel_left htexts
  rw [← Nat.ofDigitChars_ten_toDigits (n := i), hdigits, Nat.ofDigitChars_ten_toDigits]

/-- An id finds the diagram node at its position. -/
theorem node?_nodeId {i : Nat} (hi : i < m.nodes.length) :
    (ofModel m).node? (nodeId i) = some (ofNode i m.nodes[i]) := by
  have hids : (m.nodes.mapIdx ofNode).Pairwise fun a b => a.id ≠ b.id := by
    rw [List.pairwise_iff_getElem]
    intro j k hj hk hjk hid
    rw [List.getElem_mapIdx, List.getElem_mapIdx] at hid
    have := nodeId_inj hid
    omega
  have hmem : ofNode i m.nodes[i] ∈ m.nodes.mapIdx ofNode := List.mem_mapIdx.2 ⟨i, hi, rfl⟩
  exact Keyed.find?_of_mem hids hmem

theorem labelOf_ofNode (i : Nat) (n : Node) : labelOf (ofNode i n) = n.label := by
  unfold labelOf ofNode
  split <;> rfl

/-- The id of a label finds a diagram node with that label. -/
theorem node?_idOf {label : String} (h : ∃ n ∈ m.nodes, n.label = label) :
    ∃ dn, (ofModel m).node? (idOf m label) = some dn ∧ labelOf dn = label := by
  unfold idOf
  cases hfind : m.nodes.findIdx? (·.label == label) with
  | none =>
    obtain ⟨n, hn, hlabel⟩ := h
    have hno := List.findIdx?_eq_none_iff.1 hfind n hn
    rw [hlabel, beq_self_eq_true] at hno
    cases hno
  | some i =>
    obtain ⟨hi, hlabel, -⟩ := List.findIdx?_eq_some_iff_getElem.1 hfind
    refine ⟨_, node?_nodeId hi, ?_⟩
    rw [labelOf_ofNode]
    exact beq_iff_eq.1 hlabel

/-! ## Models -/

theorem endIssues_ofRelationship (hends : m.EndsDeclared) {r : Relationship}
    (hr : r ∈ m.relationships) (i : Nat) :
    (ofModel m).endIssues (ofRelationship m i r) = [] := by
  obtain ⟨start, hstart, -⟩ := node?_idOf (hends r hr .source)
  obtain ⟨stop, hstop, -⟩ := node?_idOf (hends r hr .target)
  have hfrom : (ofModel m).node? (ofRelationship m i r).fromId = some start := hstart
  have hto : (ofModel m).node? (ofRelationship m i r).toId = some stop := hstop
  unfold endIssues
  refine List.filterMap_eq_nil_iff.2 fun id hid => ?_
  rcases List.mem_cons.1 hid with rfl | hid
  · rw [hfrom]
    rfl
  · rw [List.mem_singleton.1 hid, hto]
    rfl

theorem toRelationship?_ofRelationship (hends : m.EndsDeclared) {r : Relationship}
    (hr : r ∈ m.relationships) (i : Nat) :
    (ofModel m).toRelationship? (ofRelationship m i r) = some r.reread := by
  obtain ⟨start, hstart, hsource⟩ := node?_idOf (hends r hr .source)
  obtain ⟨stop, hstop, htarget⟩ := node?_idOf (hends r hr .target)
  have hfrom : (ofModel m).node? (ofRelationship m i r).fromId = some start := hstart
  have hto : (ofModel m).node? (ofRelationship m i r).toId = some stop := hstop
  unfold toRelationship?
  rw [hfrom, hto]
  show some (Relationship.mk _ _ (labelOf start) (labelOf stop) _) = _
  rw [hsource, htarget]
  rfl

theorem filterMap_mapIdx {α β γ : Type} {f : Nat → α → β} {g : β → Option γ} {h : α → γ}
    {l : List α} (hl : ∀ i, ∀ x ∈ l, g (f i x) = some (h x)) :
    (l.mapIdx f).filterMap g = l.map h := by
  induction l generalizing f with
  | nil => rfl
  | cons x l ih =>
    rw [List.mapIdx_cons, List.filterMap_cons_some (hl 0 x List.mem_cons_self), List.map_cons,
      ih fun i y hy => hl (i + 1) y (List.mem_cons_of_mem _ hy)]

/-- **What the diagram of a model declares**: what the model does, with the properties and sources
that their texts stand for. -/
theorem declarations_ofModel (hends : m.EndsDeclared) :
    (ofModel m).declarations = m.declared.reread := by
  have hnodes : (m.nodes.mapIdx ofNode).map toNode = m.nodes.map Node.reread := by
    have hnode : ∀ i n, toNode (ofNode i n) = n.reread := by
      intro i n
      unfold toNode
      rw [labelOf_ofNode]
      rfl
    rw [← List.filterMap_eq_map]
    exact filterMap_mapIdx fun i n _ => congrArg some (hnode i n)
  have hrelationships : (m.relationships.mapIdx (ofRelationship m)).filterMap
      (ofModel m).toRelationship? = m.relationships.map Relationship.reread :=
    filterMap_mapIdx fun i r hr => toRelationship?_ofRelationship hends hr i
  unfold declarations Declarations.reread
  exact congr (congrArg Declarations.mk hnodes) hrelationships

/-- Every end is known. -/
theorem endIssues_ofModel (hends : m.EndsDeclared) :
    (ofModel m).relationships.flatMap (ofModel m).endIssues = [] := by
  refine List.flatMap_eq_nil_iff.2 fun dr hdr => ?_
  obtain ⟨i, hi, rfl⟩ := List.mem_mapIdx.1 hdr
  exact endIssues_ofRelationship hends (List.getElem_mem hi) i

theorem toModel_ofModel (hends : m.EndsDeclared) :
    (ofModel m).toModel = m.declared.reread.build := by
  unfold toModel
  rw [endIssues_ofModel hends, declarations_ofModel hends]

/-- **The diagram of a model is read back as the model** exactly when all its entities are legible.
-/
theorem toModel_ofModel_iff (hends : m.EndsDeclared) :
    (ofModel m).toModel = .ok m ↔ m.Legible := by
  rw [toModel_ofModel hends, Declarations.build_eq_ok_iff, eq_comm]
  exact reread_declared_iff

/-- **What the diagram of an accepted model keeps.** Its ends are known, so it declares
the nodes and relationships of the model in their order, with their labels, types and ends. Each
entity that is legible is kept whole, and a model whose entities all are is read back as it is. -/
theorem accepted_diagram_read_back {v : AcceptedModel} (h : accept m a = .ok v) :
    (ofModel m).relationships.flatMap (ofModel m).endIssues = [] ∧
    (ofModel m).toModel = (ofModel m).declarations.build ∧
    List.Forall₂ (fun n n' => n'.label = n.label ∧ ((Entity.node n).Legible → n' = n))
      m.nodes (ofModel m).declarations.nodes ∧
    List.Forall₂ (fun r r' => r'.type = r.type ∧ r'.source = r.source ∧ r'.target = r.target ∧
        ((Entity.relationship r).Legible → r' = r))
      m.relationships (ofModel m).declarations.relationships ∧
    (m.Legible → (ofModel m).toModel = .ok m) := by
  obtain ⟨rfl, rfl⟩ := accept_eq_ok_iff.1 h
  have hends : v.model.EndsDeclared := (validate_eq_nil_iff.1 v.valid).endpoints
  rw [toModel_ofModel hends, declarations_ofModel hends]
  refine ⟨endIssues_ofModel hends, rfl, ?_, ?_, ?_⟩
  · refine List.forall₂_map_right_iff.2 (List.forall₂_same.2 fun n _ => ?_)
    exact ⟨rfl, reread_node_iff.2⟩
  · refine List.forall₂_map_right_iff.2 (List.forall₂_same.2 fun r _ => ?_)
    exact ⟨rfl, rfl, rfl, reread_relationship_iff.2⟩
  · intro hlegible
    rw [reread_declared_iff.2 hlegible]
    exact Declarations.build_eq_ok_iff.2 rfl

/-- Two nodes from two files and a relationship that reads a key under another name. -/
def ordersModel : Model :=
  ⟨⟨[⟨"Customer", [⟨"id", "id", some "customer", "str", true⟩], "customers.csv"⟩,
      ⟨"Order", [⟨"id", "id", none, "int", true⟩], "file"⟩],
    [⟨"PLACED", [⟨"at", "placed at", none, "datetime", false⟩], "Customer", "Order", "file"⟩]⟩,
    by decide⟩

/-- The columns of the two files. -/
def ordersColumns : AllowedColumns :=
  .perFile (.ofList [("customers.csv", ["id"]), ("file", ["id", "customer", "placed at"])])

/-- The conditions of `accepted_diagram_read_back` are met. -/
theorem accepted_diagram_read_back_orders :
    (∃ v, accept ordersModel ordersColumns = .ok v) ∧ ordersModel.Legible ∧
      (ofModel ordersModel).toModel = .ok ordersModel :=
  have h : accept ordersModel ordersColumns =
      .ok ⟨ordersModel, ordersColumns, by decide⟩ := accept_eq_ok_iff.2 ⟨rfl, rfl⟩
  have hlegible : ordersModel.Legible := reread_declared_iff.1 (by decide)
  ⟨⟨_, h⟩, hlegible, (accepted_diagram_read_back h).2.2.2.2 hlegible⟩

/-! ## Models that a diagram does not keep -/

/-- Models of one node: one without a type, which is read back with the default one; one with the
reserved property name; and some with a bar, or with blanks around a text, in its place. -/
def illegibleModels : List Model :=
  [⟨⟨[⟨"A", [⟨"id", "x", none, "", true⟩], "file"⟩], []⟩, by decide⟩,
   ⟨⟨[⟨"A", [⟨"_source", "x", none, "str", true⟩], "file"⟩], []⟩, by decide⟩,
   ⟨⟨[⟨"A", [⟨"id", "a|b", none, "str", true⟩], "file"⟩], []⟩, by decide⟩,
   ⟨⟨[⟨"A", [⟨"id", " x", none, "str", true⟩], "file"⟩], []⟩, by decide⟩,
   ⟨⟨[⟨"A", [⟨"id", "x", none, "list|str", true⟩], "file"⟩], []⟩, by decide⟩,
   ⟨⟨[⟨"A", [⟨"id", "x", some "o ", "str", true⟩], "file"⟩], []⟩, by decide⟩,
   ⟨⟨[⟨"A", [⟨"id", "x", none, "str", true⟩], " f"⟩], []⟩, by decide⟩]

/-- **A diagram may lose a part of an accepted model.** -/
theorem accepted_diagram_not_kept :
    illegibleModels.Forall fun m => (∃ v, accept m (.flat ["x", " x", "a|b"]) = .ok v) ∧
      (ofModel m).toModel ≠ .ok m := by
  have hlost : ∀ m ∈ illegibleModels, validate m (.flat ["x", " x", "a|b"]) = [] ∧
      m.declared.reread ≠ m.declared := by decide
  refine List.forall_iff_forall_mem.2 fun m hm => ?_
  obtain ⟨hvalid, hreread⟩ := hlost m hm
  have hends : m.EndsDeclared := (validate_eq_nil_iff.1 hvalid).endpoints
  refine ⟨⟨⟨m, _, hvalid⟩, accept_eq_ok_iff.2 ⟨rfl, rfl⟩⟩, fun hkept => hreread ?_⟩
  exact reread_declared_iff.2 ((toModel_ofModel_iff hends).1 hkept)

end Diagram

end GraphIngest
