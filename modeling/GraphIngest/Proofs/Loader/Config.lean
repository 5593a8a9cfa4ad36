import GraphIngest.Exporter
import GraphIngest.Proofs.Cypher.ConstraintNames
import GraphIngest.Proofs.Cypher.Endpoints
import GraphIngest.Proofs.Loader.Files
import GraphIngest.World

/-!
# Loader configurations and text exports

A loader configuration is made from the same model as the texts of constraints and statements, but
on its own. The user's statements in it may stand in files, which are read through any kind of file
access.

* `IngestCode.readStatements_eq_error_iff` — statements of the user fail exactly for a file that
  cannot be read;
* `Model.readConfig_eq_ok_iff`, `Model.Fits.readConfig_eq_error_iff` — what a configuration is made
  of, and why there is none;
* `loaderConfig_matches_exports` — a configuration says what the text exports say, step by step.
-/

namespace GraphIngest

open Cypher
open SourceFile (csvName)

/-! ## The user's statements -/

section

variable {σ : Type} [FileAccess (StateM σ)] {code? : Option IngestCode} {s s' : σ}

/-- The statements of code that may be absent, with what reading them leaves behind. -/
def IngestCode.readStatements (code? : Option IngestCode) (s : σ) :
    Except IngestCodeError (List String) × σ := (optionStatements code? : StateM σ _).run s

/-- **Statements of the user fail exactly for a file that cannot be read.** -/
theorem IngestCode.readStatements_eq_error_iff {e : IngestCodeError} :
    readStatements code? s = (.error e, s') ↔ code? = some (.file e.path) ∧
      (FileAccess.readText e.path : StateM σ _).run s = (.error e.cause, s') := by
  cases code? with
  | none => exact ⟨nofun, nofun⟩
  | some code =>
    cases code with
    | text value => exact ⟨nofun, nofun⟩
    | statements values => exact ⟨nofun, nofun⟩
    | file path =>
      obtain ⟨answer, next, hread⟩ :
          ∃ answer next, (FileAccess.readText path : StateM σ _).run s = (answer, next) :=
        ⟨_, _, rfl⟩
      cases answer with
      | ok content =>
        have hrun : readStatements (some (.file path)) s = (.ok (splitStatements content), next) :=
          run_bind_of_run hread _
        rw [hrun]
        refine ⟨nofun, ?_⟩
        rintro ⟨hpath, herror⟩
        cases hpath
        exact nomatch hread.symm.trans herror
      | error cause =>
        have hrun : readStatements (some (.file path)) s = (.error ⟨path, cause⟩, next) :=
          run_bind_of_run hread _
        rw [hrun]
        constructor
        · intro h
          cases h
          exact ⟨rfl, hread⟩
        · rintro ⟨hpath, herror⟩
          cases hpath
          cases hread.symm.trans herror
          rfl

end

/-! ## What a configuration is made of -/

/-- The configuration that loads a model between statements that were read. -/
def Model.readConfig {σ : Type} [FileAccess (StateM σ)] (m : Model) (strategy : Strategy)
    (options : LoaderOptions) (s : σ) : Except ExportError LoaderConfig × σ :=
  (m.loaderConfig strategy options : StateM σ _).run s

section

variable {σ : Type} [FileAccess (StateM σ)] {m : Model} {a : AllowedColumns} {strategy : Strategy}
  {options : LoaderOptions} {s s' : σ}

/-- The user's statements that run before loading are read first. -/
theorem Model.readConfig_eq (m : Model) (strategy : Strategy) (options : LoaderOptions) (s : σ) :
    m.readConfig strategy options s =
      match IngestCode.readStatements options.preIngest s with
      | (.error e, s₁) => (.error (.ingestCode e), s₁)
      | (.ok before, s₁) =>
        match IngestCode.readStatements options.postIngest s₁ with
        | (.error e, s₂) => (.error (.ingestCode e), s₂)
        | (.ok after, s₂) =>
          match LoaderConfig.ofModel m strategy options before after with
          | .ok k => (.ok k, s₂)
          | .error e => (.error (.undeclaredEndpoint e), s₂) := by
  unfold Model.readConfig Model.loaderConfig
  obtain ⟨before, s₁, hbefore⟩ :
      ∃ before s₁, IngestCode.readStatements options.preIngest s = (before, s₁) := ⟨_, _, rfl⟩
  rw [run_bind_of_run hbefore, hbefore]
  cases before with
  | error e => rfl
  | ok before =>
    obtain ⟨after, s₂, hafter⟩ :
        ∃ after s₂, IngestCode.readStatements options.postIngest s₁ = (after, s₂) := ⟨_, _, rfl⟩
    simp only [run_bind_of_run hafter, hafter]
    cases after with
    | error e => rfl
    | ok after =>
      simp only
      cases LoaderConfig.ofModel m strategy options before after <;> rfl

/-- **What a configuration is made of**: the user's statements as they are read one after the other,
around those of the model. -/
theorem Model.readConfig_eq_ok_iff {k : LoaderConfig} :
    m.readConfig strategy options s = (.ok k, s') ↔ ∃ before s₁ after,
      IngestCode.readStatements options.preIngest s = (.ok before, s₁) ∧
      IngestCode.readStatements options.postIngest s₁ = (.ok after, s') ∧
      LoaderConfig.ofModel m strategy options before after = .ok k := by
  rw [readConfig_eq]
  constructor
  · intro h
    split at h
    · cases h
    · rename_i before s₁ hbefore
      split at h
      · cases h
      · rename_i after s₂ hafter
        split at h
        · rename_i k' hk
          cases h
          exact ⟨before, s₁, after, hbefore, hafter, hk⟩
        · cases h
  · rintro ⟨before, s₁, after, hbefore, hafter, hk⟩
    simp only [hbefore, hafter, hk]

/-- A file of the user's statements cannot be read. -/
inductive Unreadable (options : LoaderOptions) (s s' : σ) (e : IngestCodeError) : Prop where
  /-- A file of the statements that run before loading. -/
  | before (hcode : options.preIngest = some (.file e.path))
    (hread : (FileAccess.readText e.path : StateM σ _).run s = (.error e.cause, s'))
  /-- A file of the statements that run after loading; the others were read. -/
  | after {before : List String} {s₁ : σ}
    (hbefore : IngestCode.readStatements options.preIngest s = (.ok before, s₁))
    (hcode : options.postIngest = some (.file e.path))
    (hread : (FileAccess.readText e.path : StateM σ _).run s₁ = (.error e.cause, s'))

/-- **A valid model has a configuration unless a file of the user's statements cannot be read.** -/
theorem Model.Fits.readConfig_eq_error_iff (h : m.Fits a) {e : ExportError} :
    m.readConfig strategy options s = (.error e, s') ↔
      ∃ cause, e = .ingestCode cause ∧ Unreadable options s s' cause := by
  rw [Model.readConfig_eq]
  constructor
  · intro herror
    split at herror
    · rename_i cause s₁ hbefore
      cases herror
      obtain ⟨hcode, hread⟩ := IngestCode.readStatements_eq_error_iff.1 hbefore
      exact ⟨cause, rfl, .before hcode hread⟩
    · rename_i before s₁ hbefore
      split at herror
      · rename_i cause s₂ hafter
        cases herror
        obtain ⟨hcode, hread⟩ := IngestCode.readStatements_eq_error_iff.1 hafter
        exact ⟨cause, rfl, .after hbefore hcode hread⟩
      · rename_i after s₂ hafter
        obtain ⟨k, hk, -⟩ := LoaderConfig.files_ofModel h strategy options before after
        simp only [hk] at herror
        cases herror
  · rintro ⟨cause, rfl, ⟨hcode, hread⟩ | ⟨hbefore, hcode, hread⟩⟩
    · have hbefore := IngestCode.readStatements_eq_error_iff.2 ⟨hcode, hread⟩
      simp only [hbefore]
    · have hafter := IngestCode.readStatements_eq_error_iff.2 ⟨hcode, hread⟩
      simp only [hbefore, hafter]

end

/-! ## The steps of a configuration -/

/-- The batch size for the kind of an entity. -/
def BatchSizes.sizeFor (sizes : BatchSizes) : Entity → Nat
  | .node _ => sizes.nodes
  | .relationship _ => sizes.relationships

/-- A quote is written with a backslash in front of it, and every other character as it is. -/
theorem Cypher.escapeQuotes_eq (cs : List Char) :
    escapeQuotes cs = cs.flatMap fun c => if c = '\'' then ['\\', '\''] else [c] := by
  induction cs with
  | nil => rfl
  | cons c cs ih =>
    rw [escapeQuotes, List.flatMap_cons, ih]
    split
    · rename_i hquote
      rw [hquote]
      rfl
    · rfl

/-- A step loads an entity of a model from its staged file, and the batch size stands in one place:
beside a statement for batches of rows, which does not depend on it, or at the end of a statement
that reads the file itself. There the name of the file has a backslash in front of every quote. -/
structure LoadFile.Loads (m : Model) (strategy : Strategy) (sizes : BatchSizes) (e : Entity)
    (file : LoadFile) : Prop where
  url : file.url = "$BASE/" ++ csvName e.sourceName
  statement : (Generator.ofModel m sizes).statement strategy e = .ok file.statement
  standard : strategy = .standard → file.chunkSize = some (sizes.sizeFor e) ∧
    ∀ others, (Generator.ofModel m others).statement strategy e = .ok file.statement
  loadCsv : strategy = .loadCsv → file.chunkSize = none
  staged : ∃ call, ∀ others, (Generator.ofModel m others).statement .loadCsv e = .ok
    ("LOAD CSV WITH HEADERS FROM 'file:///" ++
      String.ofList ((csvName e.sourceName).toList.flatMap fun c =>
        if c = '\'' then ['\\', '\''] else [c]) ++
      "' AS row\n" ++ call ++ " IN TRANSACTIONS OF " ++ toString (others.sizeFor e) ++ " ROWS")

namespace LoadFile

variable {m : Model} {strategy : Strategy} {sizes : BatchSizes}

theorem wrap_loadCsv (source : String) (body : List String) :
    ∃ call, ∀ size, wrap .loadCsv source size body =
      "LOAD CSV WITH HEADERS FROM 'file:///" ++
        String.ofList ((csvName source).toList.flatMap fun c =>
          if c = '\'' then ['\\', '\''] else [c]) ++
        "' AS row\n" ++ call ++ " IN TRANSACTIONS OF " ++ toString size ++ " ROWS" := by
  refine ⟨"CALL \x7b\n" ++ indentation ++ "WITH row\n" ++ indent ("\n".intercalate body) ++
    "\n\x7d", fun size => ?_⟩
  have hfrom : "LOAD CSV WITH HEADERS FROM 'file:///" =
      "LOAD CSV WITH HEADERS FROM " ++ "'file:///" := by decide
  have hrow : "' AS row\n" = "'" ++ " AS row\n" := by decide
  have hcall : " AS row\nCALL \x7b\n" = " AS row\n" ++ "CALL \x7b\n" := by decide
  have hend : "\n\x7d IN TRANSACTIONS OF " = "\n\x7d" ++ " IN TRANSACTIONS OF " := by decide
  unfold wrap fileLiteral
  rw [hfrom, hrow, hend, hcall, escapeQuotes_eq]
  simp only [String.append_assoc]

theorem loads_nodeFile (n : Node) :
    (LoaderConfig.nodeFile (Generator.ofModel m sizes) strategy n).Loads m strategy sizes
      (.node n) := by
  obtain ⟨call, hcall⟩ := wrap_loadCsv n.sourceName (nodeBody n)
  refine ⟨rfl, rfl, ?_, ?_, call, fun others => congrArg _ (hcall others.nodes)⟩
  · rintro rfl
    exact ⟨rfl, fun others => rfl⟩
  · rintro rfl
    rfl

theorem loads_relationshipFile {r : Relationship} {file : LoadFile}
    (h : LoaderConfig.relationshipFile (Generator.ofModel m sizes) strategy r = .ok file) :
    file.Loads m strategy sizes (.relationship r) := by
  obtain ⟨statement, hstatement, hfile⟩ := bind_eq_ok.1 h
  cases hfile
  obtain ⟨source, hsource, hrest⟩ := bind_eq_ok.1 hstatement
  obtain ⟨target, htarget, hwrap⟩ := bind_eq_ok.1 hrest
  cases hwrap
  -- The ends are looked up among the nodes alone, so they are the same for all batch sizes.
  have hothers : ∀ (others : BatchSizes) (strategy : Strategy),
      (Generator.ofModel m others).relationshipStatement strategy r = .ok
        (wrap strategy r.sourceName others.relationships (relationshipBody r source target)) :=
    fun others strategy => relationshipStatement_eq
      (endpoint_eq_ok_iff.2 (endpoint_eq_ok_iff.1 hsource))
      (endpoint_eq_ok_iff.2 (endpoint_eq_ok_iff.1 htarget)) strategy
  obtain ⟨call, hcall⟩ := wrap_loadCsv r.sourceName (relationshipBody r source target)
  refine ⟨rfl, hothers sizes strategy, ?_, ?_, call, fun others => ?_⟩
  · rintro rfl
    exact ⟨rfl, fun others => hothers others .standard⟩
  · rintro rfl
    rfl
  · exact (hothers others .loadCsv).trans (congrArg _ (hcall others.relationships))

end LoadFile

/-- The steps of a configuration load the entities of the model in their order. -/
theorem LoaderConfig.loads_files {m : Model} {strategy : Strategy} {options : LoaderOptions}
    {before after : List String} {k : LoaderConfig}
    (h : ofModel m strategy options before after = .ok k) :
    List.Forall₂ (LoadFile.Loads m strategy options.batchSizes) m.entities k.files := by
  obtain ⟨files, hfiles, hk⟩ := bind_eq_ok.1 h
  cases hk
  refine List.rel_append ?_ ?_
  · rw [List.forall₂_map_left_iff, List.forall₂_map_right_iff, List.forall₂_same]
    exact fun n _ => LoadFile.loads_nodeFile n
  · rw [List.forall₂_map_left_iff]
    exact (mapM_eq_ok_iff.1 hfiles).imp fun r file hfile => LoadFile.loads_relationshipFile hfile

/-- **A loader configuration and the text exports describe the same load.** The statements of the
steps make the script. The statements before loading are the constraints, which make the text of
constraints, and then those of the user, as are the ones after loading. The steps load the entities
in their order from their staged files, each with its batch size in one place. -/
theorem loaderConfig_matches_exports {σ : Type} [FileAccess (StateM σ)] {m : Model}
    {strategy : Strategy} {options : LoaderOptions} {s s' : σ} {k : LoaderConfig}
    (h : (m.loaderConfig strategy options : StateM σ _).run s = (.ok k, s')) :
    m.script strategy options.batchSizes = .ok (joinStatements (k.files.map (·.statement))) ∧
    (∃ before s₁, IngestCode.readStatements options.preIngest s = (.ok before, s₁) ∧
      IngestCode.readStatements options.postIngest s₁ = (.ok k.postIngest, s') ∧
      k.preIngest = m.entities.flatMap constraintStatements ++ before) ∧
    Cypher.constraints m =
      String.join ((m.entities.flatMap constraintStatements).map (· ++ ";\n")) ∧
    List.Forall₂ (LoadFile.Loads m strategy options.batchSizes) m.entities k.files := by
  obtain ⟨before, s₁, after, hbefore, hafter, hk⟩ := Model.readConfig_eq_ok_iff.1 h
  have hloads := LoaderConfig.loads_files hk
  have hpost : k.postIngest = after := by
    obtain ⟨files, -, hk'⟩ := bind_eq_ok.1 hk
    cases hk'
    rfl
  have hscript : ingestionScript m strategy options.batchSizes =
      .ok (joinStatements (k.files.map (·.statement))) := by
    refine ingestionScript_eq_ok ?_
    rw [List.forall₂_map_right_iff]
    exact hloads.imp fun e file hfile => hfile.statement
  refine ⟨?_, ⟨before, s₁, hbefore, hpost ▸ hafter, preIngest_eq hk⟩,
    constraints_eq m options.batchSizes, hloads⟩
  unfold Model.script
  rw [hscript]

/-! ## A load with files of the user -/

/-- A model with a relationship, whose files are named with a quote and without an extension. -/
def stagedModel : Model :=
  ⟨⟨[⟨"Person", [⟨"name", "full name", none, "str", true⟩], "people's"⟩],
    [⟨"KNOWS", [⟨"since", "since", none, "str", false⟩], "Person", "Person", "knows.csv"⟩]⟩,
    by decide⟩

/-- Options with statements in a file that run before loading. -/
def stagedOptions : LoaderOptions :=
  { LoaderOptions.default with preIngest := some (.file "first.cql"), batchSizes := ⟨7, 8⟩ }

/-- A world with that file, which holds two statements. -/
def stagedWorld : World where
  files := { entries := [(["first.cql"], .file (FileTree.encodeText "a;\n b"))] }
  readings _ := ⟨2024, 2, 29, 23, 59, 60, 5⟩

/-- The conditions of `loaderConfig_matches_exports` are met with statements from a file. -/
theorem loaderConfig_matches_exports_staged :
    ∃ k, (stagedModel.loaderConfig .loadCsv stagedOptions : StateM World _).run stagedWorld =
        (.ok k, stagedWorld) ∧
      stagedModel.script .loadCsv ⟨7, 8⟩ = .ok (joinStatements (k.files.map (·.statement))) ∧
      k.files.length = 2 := by
  have hfits : stagedModel.Fits (.flat ["full name", "since"]) :=
    validate_eq_nil_iff.1 (by decide +kernel)
  have hfile : (FileAccess.readText "first.cql" : StateM World _).run stagedWorld =
      (.ok "a;\n b", stagedWorld) := Prod.ext (by decide +kernel) rfl
  have hsplit : IngestCode.splitStatements "a;\n b" = ["a", "b"] := by decide +kernel
  have hread : IngestCode.readStatements stagedOptions.preIngest stagedWorld =
      (.ok ["a", "b"], stagedWorld) := by
    rw [← hsplit]
    exact run_bind_of_run hfile _
  obtain ⟨k, hk, hfiles⟩ := LoaderConfig.files_ofModel hfits .loadCsv stagedOptions ["a", "b"] []
  have hrun : (stagedModel.loaderConfig .loadCsv stagedOptions : StateM World _).run stagedWorld =
      (.ok k, stagedWorld) := Model.readConfig_eq_ok_iff.2 ⟨_, _, _, hread, rfl, hk⟩
  exact ⟨k, hrun, (loaderConfig_matches_exports hrun).1, hfiles.length_eq.symm⟩

end GraphIngest
