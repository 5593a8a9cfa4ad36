import GraphIngest.Loader.Config
import GraphIngest.Proofs.Columns.Staged
import GraphIngest.Proofs.Cypher.Reads

/-!
# The files that a loader reads

The configuration of a loader has one step for each entity of the model. The address of a step, and
the statement that reads the file itself, name the file that the source is staged under.

* `files_ofModel` — the configuration of an accepted model has these steps in the order of entities;
* `accepted_staged_columns` — when the staged file has the columns that the entity was checked
  against;
* `staged_columns_missing` — it may have others, where a stem belongs to two files.
-/

namespace GraphIngest

open SourceFile (csvName)

variable {m : Model} {a : AllowedColumns}

/-- A step reads the file that a source is staged under. -/
structure LoadFile.Reads (strategy : Strategy) (source : String) (file : LoadFile) : Prop where
  url : file.url = "$BASE/" ++ csvName source
  statement : strategy = .loadCsv → ∃ rest,
    file.statement = "LOAD CSV WITH HEADERS FROM " ++ Cypher.fileLiteral source ++ rest

namespace LoaderConfig

theorem exists_wrap_eq {strategy : Strategy} (source : String) (size : Nat) (body : List String)
    (h : strategy = .loadCsv) : ∃ rest, Cypher.wrap strategy source size body =
      "LOAD CSV WITH HEADERS FROM " ++ Cypher.fileLiteral source ++ rest := by
  subst h
  unfold Cypher.wrap
  simp only [String.append_assoc]
  exact ⟨_, rfl⟩

theorem reads_nodeFile (g : Cypher.Generator) (strategy : Strategy) (n : Node) :
    (nodeFile g strategy n).Reads strategy n.sourceName :=
  ⟨rfl, exists_wrap_eq _ _ _⟩

/-- A step whose ends are found is made, and it reads the file of the relationship. -/
theorem reads_relationshipFile {g : Cypher.Generator} (strategy : Strategy) {r : Relationship}
    (hends : ∀ role, ∃ n, g.endpoint r (r.endLabel role) = .ok n) :
    ∃ file, relationshipFile g strategy r = .ok file ∧ file.Reads strategy r.sourceName := by
  obtain ⟨source, hsource⟩ := hends .source
  obtain ⟨target, htarget⟩ := hends .target
  have hstatement := relationshipStatement_eq hsource htarget strategy
  exact ⟨_, bind_eq_ok.2 ⟨_, hstatement, rfl⟩, rfl, exists_wrap_eq _ _ _⟩

/-- **The steps of a configuration** are made for the entities of the model in their order, and each
reads the staged file of its entity. -/
theorem files_ofModel (h : m.Fits a) (strategy : Strategy) (options : LoaderOptions)
    (before after : List String) :
    ∃ c, ofModel m strategy options before after = .ok c ∧
      List.Forall₂ (fun e file => file.Reads strategy e.sourceName) m.entities c.files := by
  obtain ⟨files, hfiles, hreads⟩ := exists_mapM_eq_ok
    (R := fun r (file : LoadFile) => file.Reads strategy r.sourceName) fun r hr =>
      reads_relationshipFile strategy fun role => h.endpoint options.batchSizes hr role
  refine ⟨_, bind_eq_ok.2 ⟨files, hfiles, rfl⟩, List.rel_append ?_ ?_⟩
  · rw [List.forall₂_map_left_iff, List.forall₂_map_right_iff, List.forall₂_same]
    exact fun n _ => reads_nodeFile _ strategy n
  · rw [List.forall₂_map_left_iff]
    exact hreads

end LoaderConfig

/-- **What the files of an accepted model hold.** Every step reads the staged file of its entity.
That file has the entry that the entity was checked against exactly when the two names agree, and
the same columns only then or when two files have the same columns. The names agree where the source
has an extension, and also where no two files share a stem and it ends in a file name. -/
theorem accepted_staged_columns {f : FileColumns} {v : AcceptedModel}
    (h : accept m (.perFile f) = .ok v) :
    (∀ strategy options before after, ∃ c,
      LoaderConfig.ofModel m strategy options before after = .ok c ∧
        List.Forall₂ (fun e file => file.Reads strategy e.sourceName) m.entities c.files) ∧
    ∀ e ∈ m.entities,
      (f.file? (csvName e.sourceName) = f.file? e.sourceName ↔
        f.Agree (csvName e.sourceName) e.sourceName) ∧
      ((AllowedColumns.perFile f).scope (csvName e.sourceName) =
          (AllowedColumns.perFile f).scope e.sourceName ↔
        f.Agree (csvName e.sourceName) e.sourceName ∨
          f.SameColumns (csvName e.sourceName) e.sourceName) ∧
      (FileName.hasExtension e.sourceName = true ∨
          f.StemsDistinct ∧ FileName.EndsInFile e.sourceName →
        f.Agree (csvName e.sourceName) e.sourceName) := by
  obtain ⟨rfl, hcolumns⟩ := accept_eq_ok_iff.1 h
  have hfits := validate_eq_nil_iff.1 v.valid
  rw [hcolumns] at hfits
  refine ⟨LoaderConfig.files_ofModel hfits, fun e he => ?_⟩
  have hknown : f.find? e.sourceName ≠ none := Option.ne_none_iff_exists'.2 (hfits.sources e he)
  exact ⟨FileColumns.file?_eq_iff (FileColumns.file?_ne_none hknown),
    FileColumns.find?_eq_iff hknown, FileColumns.agree_csvName⟩

/-! ## Two files with one stem -/

/-- A node from a file without an extension. -/
def plainNameModel : Model :=
  ⟨⟨[⟨"Order", [⟨"id", "id", none, "str", true⟩], "orders"⟩], []⟩, by decide⟩

/-- Columns of that file, and of one whose name has the extension. -/
def plainNameColumns : FileColumns := .ofList [("orders", ["id"]), ("orders.csv", ["x"])]

/-- The conditions of `accepted_staged_columns` are met also by a model whose files share a stem. -/
theorem accepted_staged_columns_plain_name :
    ∃ v c, accept plainNameModel (.perFile plainNameColumns) = .ok v ∧
      LoaderConfig.ofModel plainNameModel .loadCsv .default [] [] = .ok c ∧
      List.Forall₂ (fun e file => file.Reads .loadCsv e.sourceName) plainNameModel.entities
        c.files ∧
      ∀ e ∈ plainNameModel.entities,
        (plainNameColumns.file? (csvName e.sourceName) = plainNameColumns.file? e.sourceName ↔
          plainNameColumns.Agree (csvName e.sourceName) e.sourceName) := by
  have h : accept plainNameModel (.perFile plainNameColumns) =
      .ok ⟨plainNameModel, .perFile plainNameColumns, by decide⟩ := accept_eq_ok_iff.2 ⟨rfl, rfl⟩
  obtain ⟨c, hc, hreads⟩ := (accepted_staged_columns h).1 .loadCsv .default [] []
  exact ⟨_, c, h, hc, hreads, fun e he => ((accepted_staged_columns h).2 e he).1⟩

/-- **The staged file may have other columns**: the model is accepted with the columns of `orders`,
and its rows are read from `orders.csv`, which does not have the key. -/
theorem staged_columns_missing :
    ∃ v e, accept plainNameModel (.perFile plainNameColumns) = .ok v ∧
      e ∈ plainNameModel.entities ∧
      (AllowedColumns.perFile plainNameColumns).scope e.sourceName = some ["id"] ∧
      (AllowedColumns.perFile plainNameColumns).scope (csvName e.sourceName) = some ["x"] :=
  ⟨⟨plainNameModel, .perFile plainNameColumns, by decide⟩,
    .node ⟨"Order", [⟨"id", "id", none, "str", true⟩], "orders"⟩, accept_eq_ok_iff.2 ⟨rfl, rfl⟩,
    by decide, by decide, by decide⟩

end GraphIngest
