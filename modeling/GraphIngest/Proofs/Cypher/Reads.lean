import GraphIngest.Cypher.Generator
import GraphIngest.Proofs.Validation.Report

/-!
# The columns that generated statements read

A statement reads the columns of the entity's own properties, and the statement of a relationship
also the key columns of its two ends, from the file of the relationship.

* `accepted_reads` — for an accepted model every own column is in the file of its entity and every
  end is found; the key columns of the ends are in the file of the relationship exactly when
  `Model.KeysShared` holds, which it does where no two files share a stem;
* `reads_missing_of_shared_stem` — it can fail: an accepted model may read a key from a file that
  shares the stem of the node's file and does not have the column.
-/

namespace GraphIngest

open Cypher

/-! ## What is read -/

/-- The columns that the statement of an entity reads for the properties of that entity. -/
def Entity.ownReads (e : Entity) : List String :=
  (ownColumns e.uniqueProperties ++ ownColumns e.otherProperties).map (·.2)

/-- The columns that the pattern of an end reads. -/
def Node.endReads (n : Node) (source : String) : List String := (endpointKey n source).map (·.2)

/-- A key of an end that counts as read from the node's own file is in the relationship's, also
where the two names are resolved to different lists. -/
def Model.KeysShared (m : Model) (a : AllowedColumns) : Prop :=
  ∀ r ∈ m.relationships, ∀ role, ∀ n ∈ m.nodes, n.label = r.endLabel role →
    SourceFile.same n.sourceName r.sourceName = true → a.scope n.sourceName ≠ a.scope r.sourceName →
      ∀ p ∈ n.properties, p.isUnique = true → a.contains r.sourceName p.column = true

variable {m : Model} {a : AllowedColumns}

theorem Entity.mem_ownReads {e : Entity} {column : String} :
    column ∈ e.ownReads ↔ ∃ p ∈ e.properties, p.column = column := by
  simp only [ownReads, ownColumns, uniqueProperties, otherProperties, List.mem_map,
    List.mem_append, List.mem_filter]
  constructor
  · rintro ⟨-, ⟨p, hp, rfl⟩ | ⟨p, hp, rfl⟩, rfl⟩
    · exact ⟨p, hp.1, rfl⟩
    · exact ⟨p, hp.1, rfl⟩
  · rintro ⟨p, hp, rfl⟩
    cases hu : p.isUnique with
    | true => exact ⟨_, .inl ⟨p, ⟨hp, hu⟩, rfl⟩, rfl⟩
    | false => exact ⟨_, .inr ⟨p, ⟨hp, by simp [hu]⟩, rfl⟩, rfl⟩

theorem Node.mem_endReads {n : Node} {source column : String} :
    column ∈ n.endReads source ↔
      ∃ p ∈ n.properties, p.isUnique = true ∧ p.columnFor n.sourceName source = column := by
  simp only [endReads, endpointKey, List.mem_map, Entity.mem_uniqueProperties]
  constructor
  · rintro ⟨-, ⟨p, hp, rfl⟩, rfl⟩
    exact ⟨p, hp.1, hp.2, rfl⟩
  · rintro ⟨p, hp, hu, rfl⟩
    exact ⟨_, ⟨p, ⟨hp, hu⟩, rfl⟩, rfl⟩

theorem endpoint_eq_ok_iff {sizes : BatchSizes} {r : Relationship} {label : String} {n : Node} :
    (Generator.ofModel m sizes).endpoint r label = .ok n ↔ n ∈ m.nodes ∧ n.label = label := by
  rw [← Model.node?_eq_some_iff]
  unfold Generator.endpoint Generator.ofModel Model.node?
  split
  · rename_i n' hn'
    simp [hn']
  · rename_i hnone
    simp [hnone]

/-- A relationship whose ends are found has a statement. -/
theorem relationshipStatement_eq {g : Generator} {r : Relationship} {source target : Node}
    (hsource : g.endpoint r r.source = .ok source) (htarget : g.endpoint r r.target = .ok target)
    (strategy : Strategy) :
    g.relationshipStatement strategy r =
      .ok (wrap strategy r.sourceName g.batchSizes.relationships
        (relationshipBody r source target)) :=
  bind_eq_ok.2 ⟨source, hsource, bind_eq_ok.2 ⟨target, htarget, rfl⟩⟩

/-! ## What is there -/

theorem Model.Fits.ownReads (h : m.Fits a) {e : Entity} (he : e ∈ m.entities) {column : String}
    (hc : column ∈ e.ownReads) : a.contains e.sourceName column = true := by
  obtain ⟨p, hp, rfl⟩ := Entity.mem_ownReads.1 hc
  exact h.columns e he p hp

theorem Model.Fits.endpoint (h : m.Fits a) (sizes : BatchSizes) {r : Relationship}
    (hr : r ∈ m.relationships) (role : EndpointRole) :
    ∃ n, (Generator.ofModel m sizes).endpoint r (r.endLabel role) = .ok n := by
  obtain ⟨n, hn, hlabel⟩ := h.endpoints r hr role
  exact ⟨n, endpoint_eq_ok_iff.2 ⟨hn, hlabel⟩⟩

/-- The key of an end is in the relationship's file, unless the two files are taken for one. -/
theorem Model.Fits.endReads (h : m.Fits a) {r : Relationship} (hr : r ∈ m.relationships)
    {role : EndpointRole} {n : Node} (hn : n ∈ m.nodes) (hlabel : n.label = r.endLabel role)
    (hshared : SourceFile.same n.sourceName r.sourceName = true →
      a.scope n.sourceName ≠ a.scope r.sourceName →
        ∀ p ∈ n.properties, p.isUnique = true → a.contains r.sourceName p.column = true)
    {column : String} (hc : column ∈ n.endReads r.sourceName) :
    a.contains r.sourceName column = true := by
  obtain ⟨p, hp, hu, rfl⟩ := Node.mem_endReads.1 hc
  cases hsame : SourceFile.same n.sourceName r.sourceName with
  | false => exact h.endpointKeys r hr role n hn hlabel hsame p hp hu
  -- The validation passes over this end, so what is known is that the node's own file has the key.
  | true =>
    have hcolumn : p.columnFor n.sourceName r.sourceName = p.column := if_pos hsame
    rw [hcolumn]
    by_cases hscope : a.scope n.sourceName = a.scope r.sourceName
    · rw [← AllowedColumns.contains_of_scope_eq hscope]
      exact h.columns (.node n) (Model.mem_entities.2 (.inl ⟨n, hn, rfl⟩)) p hp
    · exact hshared hsame hscope p hp hu

theorem Model.keysShared_of_stems (m : Model) (h : a.StemsDistinct) : m.KeysShared a :=
  fun _ _ _ _ _ _ hsame hscope => absurd (AllowedColumns.scope_eq_of_same h hsame) hscope

theorem Model.Fits.keysShared_iff (h : m.Fits a) (sizes : BatchSizes) :
    (∀ r ∈ m.relationships, ∀ role n,
      (Generator.ofModel m sizes).endpoint r (r.endLabel role) = .ok n →
        ∀ column ∈ n.endReads r.sourceName, a.contains r.sourceName column = true) ↔
    m.KeysShared a := by
  constructor
  · intro hreads r hr role n hn hlabel hsame _ p hp hu
    refine hreads r hr role n (endpoint_eq_ok_iff.2 ⟨hn, hlabel⟩) _ ?_
    exact Node.mem_endReads.2 ⟨p, hp, hu, if_pos hsame⟩
  · intro hkeys r hr role n hend column hc
    obtain ⟨hn, hlabel⟩ := endpoint_eq_ok_iff.1 hend
    exact h.endReads hr hn hlabel (hkeys r hr role n hn hlabel) hc

/-- **What the statements of an accepted model read.** Own columns are in the file of their entity,
every end is found, and the key columns of the ends are in the file of the relationship exactly when
the keys are shared by files that count as one; where no two files share a stem they are. -/
theorem accepted_reads {v : AcceptedModel} (h : accept m a = .ok v) (sizes : BatchSizes) :
    (∀ e ∈ m.entities, ∀ column ∈ e.ownReads, a.contains e.sourceName column = true) ∧
    (∀ r ∈ m.relationships, ∀ role, ∃ n,
      (Generator.ofModel m sizes).endpoint r (r.endLabel role) = .ok n) ∧
    ((∀ r ∈ m.relationships, ∀ role n,
      (Generator.ofModel m sizes).endpoint r (r.endLabel role) = .ok n →
        ∀ column ∈ n.endReads r.sourceName, a.contains r.sourceName column = true) ↔
      m.KeysShared a) ∧
    (a.StemsDistinct → m.KeysShared a) := by
  obtain ⟨rfl, rfl⟩ := accept_eq_ok_iff.1 h
  have hfits := validate_eq_nil_iff.1 v.valid
  exact ⟨fun e he column hc => hfits.ownReads he hc, fun r hr role => hfits.endpoint sizes hr role,
    hfits.keysShared_iff sizes, v.model.keysShared_of_stems⟩

/-! ## Files that share a stem -/

/-- A node from one file and a relationship from another with the same stem. -/
def sharedStemModel : Model :=
  ⟨⟨[⟨"A", [⟨"id", "id", none, "str", true⟩], "a.csv"⟩], [⟨"R", [], "A", "A", "a.txt"⟩]⟩,
    by decide⟩

/-- Columns of the two files; only the first has the key. -/
def sharedStemColumns : AllowedColumns := .perFile (.ofList [("a.csv", ["id"]), ("a.txt", ["x"])])

/-- The conditions of `accepted_reads` are met also by a model whose keys are not shared. -/
theorem accepted_reads_shared_stem :
    ∃ v, accept sharedStemModel sharedStemColumns = .ok v ∧
      ∀ e ∈ sharedStemModel.entities, ∀ column ∈ e.ownReads,
        sharedStemColumns.contains e.sourceName column = true :=
  have h : accept sharedStemModel sharedStemColumns =
      .ok ⟨sharedStemModel, sharedStemColumns, by decide⟩ := accept_eq_ok_iff.2 ⟨rfl, rfl⟩
  ⟨_, h, (accepted_reads h .default).1⟩

/-- **The key of an end may be missing**: the model is accepted, and its relationship reads the
column of the key from a file that does not have it. -/
theorem reads_missing_of_shared_stem :
    ∃ v r n column, accept sharedStemModel sharedStemColumns = .ok v ∧
      r ∈ sharedStemModel.relationships ∧
      (Generator.ofModel sharedStemModel .default).endpoint r (r.endLabel .source) = .ok n ∧
      column ∈ n.endReads r.sourceName ∧
      sharedStemColumns.contains r.sourceName column = false :=
  ⟨⟨sharedStemModel, sharedStemColumns, by decide⟩, ⟨"R", [], "A", "A", "a.txt"⟩,
    ⟨"A", [⟨"id", "id", none, "str", true⟩], "a.csv"⟩, "id", accept_eq_ok_iff.2 ⟨rfl, rfl⟩,
    by decide, rfl, by decide, by decide⟩

end GraphIngest
