import GraphIngest.Proofs.CommandLine.Effects
import GraphIngest.Proofs.Exporter

/-!
# The verdict of validations and exports

A validation reads the model first and lists the violations itself; an export reads the columns
first, accepts the model into a history, and renders the version that it has become. Both come to
the same verdict, since an accepted model can be rendered and a rejected one is never appended.

* `ofWords?_validate`, `ofWords?_export` — which words are a command on two files;
* `result_validateFile`, `result_renderVersion` — what the commands come to when both files are
  read;
* `validate_agrees_with_exports` — the verdicts are the same, and so are the violations that are
  listed.
-/

namespace GraphIngest.CommandLine

/-! ## Words -/

/-- The words of a command that is given a model and columns and nothing else. -/
def fileWords (name model columns : String) : List String :=
  [name, "--model", model, "--columns", columns]

/-- A word can be the path of an option: it is not empty, and a dash at its front stands alone. -/
def IsPath (word : String) : Prop := word ≠ "" ∧ (word.toList.head? = some '-' → word = "-")

instance (word : String) : Decidable (IsPath word) := inferInstanceAs (Decidable (_ ∧ _))

/-- Among the options are paths of a model and of columns, and no others are required. -/
structure TakesFiles (options : List OptionSpec) : Prop where
  model : ∃ o, (Word.ofString "--model").option? options = some (some o, none) ∧
    o.name = "model" ∧ o.kind = .path
  columns : ∃ o, (Word.ofString "--columns").option? options = some (some o, none) ∧
    o.name = "columns" ∧ o.kind = .path
  complies : ∀ model columns : String,
    Given.complies [("model", model), ("columns", columns)] options =
      (!model.isEmpty && !columns.isEmpty)

theorem isPath_iff {o : OptionSpec} (ho : o.kind = .path) (word : String) :
    IsPath word ↔ word ≠ "" ∧ o.takesWord word = true := by
  refine and_congr_right' ?_
  have hdash : word = "-" ↔ word.toList = ['-'] := String.toList_inj.symm
  rw [hdash]
  unfold OptionSpec.takesWord
  split
  case h_4 hfront =>
    have hhead : word.toList.head? ≠ some '-' := by
      intro h
      obtain ⟨cs, hcs⟩ := List.head?_eq_some_iff.1 h
      exact hfront cs hcs
    exact ⟨fun _ => rfl, fun _ h => absurd h hhead⟩
  all_goals simp_all

/-- A word that stands behind the name of an option is its value, or misused. -/
theorem readOptions_path {options : List OptionSpec} {o : OptionSpec} {word value : String}
    {words : List String} (hword : (Word.ofString word).option? options = some (some o, none))
    (hkind : o.kind = .path) :
    readOptions options (word :: value :: words) =
      if o.takesWord value then (readOptions options words).map (addGiven o.name value)
      else none := by
  rw [readOptions.eq_def]
  simp [hword, hkind]

/-- Both words are the values of their options, or misused. -/
theorem TakesFiles.readAllOptions {options : List OptionSpec} (h : TakesFiles options)
    (model columns : String) :
    readAllOptions options ["--model", model, "--columns", columns] =
      if IsPath model ∧ IsPath columns then some [("model", model), ("columns", columns)]
      else none := by
  obtain ⟨o, ho, hname, hkind⟩ := h.model
  obtain ⟨o', ho', hname', hkind'⟩ := h.columns
  unfold CommandLine.readAllOptions
  rw [readOptions_path ho hkind, readOptions_path ho' hkind']
  simp only [isPath_iff hkind model, isPath_iff hkind' columns]
  by_cases hm : o.takesWord model = true <;> by_cases hc : o'.takesWord columns = true <;>
    simp [hm, hc, readOptions, addGiven, hname, hname', h.complies]

theorem takesFiles_validateOptions : TakesFiles Command.validateOptions where
  model := ⟨_, rfl, rfl, rfl⟩
  columns := ⟨_, rfl, rfl, rfl⟩
  complies model columns := by
    simp [Given.complies, Given.values, Command.validateOptions, OptionSpec.needed,
      OptionSpec.fits]

theorem takesFiles_renderOptions : TakesFiles Command.renderOptions where
  model := ⟨_, rfl, rfl, rfl⟩
  columns := ⟨_, rfl, rfl, rfl⟩
  complies model columns := by
    simp [Given.complies, Given.values, Command.renderOptions, OptionSpec.many, OptionSpec.once,
      OptionSpec.fits]

/-- What an export is asked for that is given a model and columns and nothing else. -/
def exportOf (model columns : String) : RenderArguments :=
  { models := [model]
    columns? := some columns
    version := Command.defaultVersion
    strategy? := none
    history? := none }

/-- A line that begins with the name of a command leaves the settings at their usual name. -/
theorem ofWords?_cons {name : String}
    (hname : (Word.ofString name).option? Invocation.options = none) (words : List String) :
    Invocation.ofWords? (name :: words) =
      (Command.ofWords? name words).map (⟨Invocation.defaultSettingsName, ·⟩) := by
  have hread : readOptions Invocation.options (name :: words) = some ([], name :: words) := by
    rw [readOptions.eq_def]
    simp [hname]
  unfold Invocation.ofWords?
  rw [hread]
  exact Option.map_eq_bind.symm

theorem ofWords?_validate (model columns : String) :
    Invocation.ofWords? (fileWords "validate" model columns) =
      if IsPath model ∧ IsPath columns then
        some ⟨Invocation.defaultSettingsName, .validate model columns⟩
      else none := by
  have hcommand : Command.ofWords? "validate" ["--model", model, "--columns", columns] =
      Command.validate? ["--model", model, "--columns", columns] := rfl
  unfold fileWords
  rw [ofWords?_cons rfl, hcommand, Command.validate?, takesFiles_validateOptions.readAllOptions]
  split <;> rfl

/-- The names of exports that need nothing but the model. -/
def exportNames : List String := ["constraints", "script", "document", "diagram"]

theorem ofWords?_export {name : String} (hname : name ∈ exportNames) :
    ∃ rendition ≠ Rendition.loaderConfig, ∀ model columns,
      Invocation.ofWords? (fileWords name model columns) =
        if IsPath model ∧ IsPath columns then
          some ⟨Invocation.defaultSettingsName, .render rendition (exportOf model columns)⟩
        else none := by
  have hcommand : ∃ rendition ≠ Rendition.loaderConfig,
      (Word.ofString name).option? Invocation.options = none ∧
      Command.ofWords? name = Command.render? rendition := by
    simp only [exportNames, List.mem_cons, List.not_mem_nil, or_false] at hname
    rcases hname with rfl | rfl | rfl | rfl
    · exact ⟨.constraints, nofun, rfl, rfl⟩
    · exact ⟨.script, nofun, rfl, rfl⟩
    · exact ⟨.document, nofun, rfl, rfl⟩
    · exact ⟨.diagram, nofun, rfl, rfl⟩
  obtain ⟨rendition, hrendition, hplain, hcommand⟩ := hcommand
  refine ⟨rendition, hrendition, fun model columns => ?_⟩
  unfold fileWords
  rw [ofWords?_cons hplain, hcommand, Command.render?, takesFiles_renderOptions.readAllOptions]
  split <;> rfl

/-! ## Results -/

section

variable {ε α β : Type} {w w' : World} {x : StateM World (Except ε α)}
  {reason : ε → CommandError} {k : α → ExceptT CommandError (StateM World) β}

/-- The result of a computation in a world. -/
def result (w : World) (x : ExceptT CommandError (StateM World) β) : Except CommandError β :=
  answerOn w x.run

theorem result_step_of_ok (hx : OnlyReads x) {a : α} (ha : answerOn w x = .ok a) :
    result w (step reason x >>= k) = result w (k a) :=
  congrArg Prod.fst (run_step_ok (ha ▸ hx.run_eq w))

theorem result_step_of_error (hx : OnlyReads x) {e : ε} (he : answerOn w x = .error e) :
    result w (step reason x >>= k) = .error (reason e) :=
  congrArg Prod.fst (run_step_error (he ▸ hx.run_eq w))

theorem result_lift {x : StateM World α} {a : α} (hx : x.run w = (a, w'))
    (k : α → ExceptT CommandError (StateM World) β) :
    result w (ExceptT.lift x >>= k) = result w' (k a) :=
  congrArg Prod.fst (run_lift hx k)

theorem result_last_step {x : StateM World (Except CommandError β)} (hx : OnlyReads x) :
    result w (step id x) = answerOn w x := by
  refine (hx.answer_bind _).trans ?_
  cases answerOn w x <;> rfl

end

section

variable {t : FileTree} {w : World} {model columns : String} {m : Model} {a : AllowedColumns}

/-- Both files are read: one as a model and the other one as columns. -/
structure FilesRead (t : FileTree) (model columns : String) (m : Model) (a : AllowedColumns) :
    Prop where
  model : t.Reads model Model.ofText m
  columns : t.Reads columns AllowedColumns.ofText a

theorem FilesRead.readModel_eq (h : FilesRead w.files model columns m a) :
    answerOn w (readModel model) = .ok m :=
  (parses_readModel model).answer_iff.2 h.model

theorem FilesRead.readColumns_eq (h : FilesRead w.files model columns m a) :
    answerOn w (readColumns columns) = .ok a :=
  (parses_readColumns columns).answer_iff.2 h.columns

theorem FilesRead.readAccepted_eq (h : FilesRead w.files model columns m a) :
    answerOn w (readAccepted model a) = (accept m a).mapError (.rejected model) := by
  rw [answerOn_readAccepted, h.readModel_eq]
  rfl

theorem FilesRead.unique {m' : Model} {a' : AllowedColumns} (h : FilesRead t model columns m a)
    (h' : FilesRead t model columns m' a') : m = m' ∧ a = a' :=
  ⟨h.model.unique h'.model, h.columns.unique h'.columns⟩

theorem result_validateFile (h : FilesRead w.files model columns m a) :
    result w (validateFile model columns) =
      if validate m a = [] then .ok "" else .error (.violated (validate m a)) := by
  unfold validateFile
  rw [result_step_of_ok (parses_readModel _).onlyReads h.readModel_eq,
    result_step_of_ok (parses_readColumns _).onlyReads h.readColumns_eq]
  cases validate m a <;> rfl

/-- A validation fails if one of its files cannot be read. -/
theorem exists_error_validateFile (h : ∀ m a, ¬ FilesRead w.files model columns m a) :
    ∃ e, result w (validateFile model columns) = .error e := by
  unfold validateFile
  cases hmodel : answerOn w (readModel model) with
  | error e => exact ⟨e, result_step_of_error (parses_readModel _).onlyReads hmodel⟩
  | ok m =>
    rw [result_step_of_ok (parses_readModel _).onlyReads hmodel]
    cases hcolumns : answerOn w (readColumns columns) with
    | error e => exact ⟨e, result_step_of_error (parses_readColumns _).onlyReads hcolumns⟩
    | ok a =>
      exact absurd ⟨(parses_readModel _).answer_iff.1 hmodel,
        (parses_readColumns _).answer_iff.1 hcolumns⟩ (h m a)

/-! ## Exports -/

/-- The model of the only file is appended, or the reason why it is not accepted is the answer. -/
theorem run_appendModels_singleton (w : World) (h : History) (path : String)
    (a : AllowedColumns) :
    (appendModels h [path] (some a) : StateM World _).run w =
      match answerOn w (readAccepted path a) with
      | .error e => ((.error e, h), w)
      | .ok v => ((.ok (), h.append (w.readings 0) v), w.later 1) := by
  rw [appendModels_some, run_appendFiles_cons]
  rfl

/-- Whatever needs nothing but the model can be made of a model that keeps the rules. -/
theorem exists_renderModel {rendition : Rendition} (hrendition : rendition ≠ .loaderConfig)
    (hfits : m.Fits a) (strategy : Strategy) (options : LoaderOptions) :
    ∃ text, (renderModel rendition m strategy options : StateM World _) = pure (.ok text) := by
  cases rendition with
  | loaderConfig => exact absurd rfl hrendition
  | script =>
    obtain ⟨statements, hscript, -⟩ := hfits.exists_script strategy options.batchSizes
    exact ⟨_, congrArg pure hscript⟩
  | constraints => exact ⟨_, rfl⟩
  | document => exact ⟨_, rfl⟩
  | diagram => exact ⟨_, rfl⟩

/-- The version that was appended last can be rendered. -/
theorem exists_render_append {rendition : Rendition} (hrendition : rendition ≠ .loaderConfig)
    (h : History) (now : Timestamp) (v : AcceptedModel) (strategy : Strategy)
    (options : LoaderOptions) :
    ∃ text, (render rendition (h.append now v) Command.defaultVersion strategy options :
      StateM World _) = pure (.ok text) := by
  obtain ⟨text, htext⟩ := exists_renderModel hrendition (validate_eq_nil_iff.1 v.valid) strategy
    options
  have hget : (h.append now v).get Command.defaultVersion = .ok (h.nextSnapshot now v) :=
    h.get_append_latest now v
  refine ⟨text, ?_⟩
  unfold render
  rw [hget]
  show renderModel rendition v.model strategy options >>= _ = _
  rw [htext]
  rfl

section

variable {s : Settings} (hhistory : s.historyPath = none) {rendition : Rendition}
include hhistory

/-- Where no history is kept, an export of one model comes to what accepting the model and rendering
it as the only version of a history come to. -/
theorem result_export :
    result w (renderVersion s rendition (exportOf model columns)) =
      match answerOn w (readColumns columns) with
      | .error e => .error e
      | .ok a => match answerOn w (readAccepted model a) with
        | .error e => .error e
        | .ok v => answerOn w (render rendition (History.empty.append (w.readings 0) v)
            Command.defaultVersion s.strategy s.options) := by
  have hstrategy : answerOn w (pure (chooseStrategy s (exportOf model columns).strategy?)) =
      .ok s.strategy := rfl
  have hpath : (exportOf model columns).history?.or s.historyPath = none := hhistory
  have hopen : answerOn w (History.openAt none) = .ok .empty := rfl
  have hread : answerOn w (readOptionalColumns (exportOf model columns).columns?) = _ :=
    answerOn_readOptionalColumns_some columns
  unfold renderVersion
  rw [result_step_of_ok (onlyReads_pure _) hstrategy]
  cases hcolumns : answerOn w (readColumns columns) with
  | error e =>
    rw [hcolumns] at hread
    exact result_step_of_error (onlyReads_readOptionalColumns _) hread
  | ok a =>
    rw [hcolumns] at hread
    have hmodels : (exportOf model columns).models = [model] := rfl
    have happend := run_appendModels_singleton w .empty model a
    rw [result_step_of_ok (onlyReads_readOptionalColumns _) hread, hpath,
      result_step_of_ok (History.onlyReads_openAt none) hopen, hmodels]
    dsimp only
    cases haccepted : answerOn w (readAccepted model a) with
    | error e =>
      rw [haccepted] at happend
      exact (result_lift happend _).trans (result_step_of_error (onlyReads_pure (.error e)) rfl)
    | ok v =>
      rw [haccepted] at happend
      refine (result_lift happend _).trans ?_
      dsimp only
      rw [result_step_of_ok (onlyReads_pure (.ok ())) rfl]
      -- There is a model to save, but no file to save it to.
      refine (result_step_of_ok (onlyReads_pure (.ok ())) rfl).trans ?_
      have hrender := onlyReads_render rendition (History.empty.append (w.readings 0) v)
        Command.defaultVersion s.strategy s.options
      exact (result_last_step hrender).trans (hrender.answerOn_eq rfl)

/-- An export of a model that was read succeeds unless the model has violations. -/
theorem result_renderVersion (hrendition : rendition ≠ .loaderConfig)
    (h : FilesRead w.files model columns m a) :
    ∃ text, result w (renderVersion s rendition (exportOf model columns)) =
      if validate m a = [] then .ok text else .error (.rejected model (validate m a)) := by
  rw [result_export hhistory, h.readColumns_eq]
  dsimp only
  rw [h.readAccepted_eq]
  by_cases hvalid : validate m a = []
  · obtain ⟨text, htext⟩ := exists_render_append hrendition .empty (w.readings 0) ⟨m, a, hvalid⟩
      s.strategy s.options
    have haccept : accept m a = .ok ⟨m, a, hvalid⟩ := accept_eq_ok_iff.2 ⟨rfl, rfl⟩
    rw [haccept]
    exact ⟨text, (congrArg (answerOn w) htext).trans (if_pos hvalid).symm⟩
  · rw [accept_eq_error_iff.2 ⟨hvalid, rfl⟩]
    exact ⟨"", (if_neg hvalid).symm⟩

/-- An export fails if one of its files cannot be read. -/
theorem exists_error_renderVersion (rendition : Rendition)
    (h : ∀ m a, ¬ FilesRead w.files model columns m a) :
    ∃ e, result w (renderVersion s rendition (exportOf model columns)) = .error e := by
  rw [result_export hhistory]
  cases hcolumns : answerOn w (readColumns columns) with
  | error e => exact ⟨e, rfl⟩
  | ok a =>
    dsimp only
    cases haccepted : answerOn w (readAccepted model a) with
    | error e => exact ⟨e, rfl⟩
    | ok v =>
      have hv : AcceptedAt w.files a model v := answerOn_readAccepted_eq_ok_iff.1 haccepted
      exact absurd ⟨hv.model, (parses_readColumns columns).answer_iff.1 hcolumns⟩ (h v.model a)

end

end

/-! ## Reports -/

/-- A command that succeeds on a model without violations, and fails on any other one and on files
that cannot be read, has this verdict as its exit code. -/
theorem exitCode_ofResult_iff {t : FileTree} {model columns : String}
    {r : Except CommandError String}
    (hread : ∀ m a, FilesRead t model columns m a →
      ∃ text e, r = if validate m a = [] then .ok text else .error e)
    (hunread : (∀ m a, ¬ FilesRead t model columns m a) → ∃ e, r = .error e) :
    (RunReport.ofResult r).exitCode = 0 ↔
      ∃ m a, FilesRead t model columns m a ∧ validate m a = [] := by
  have hfailed (e : CommandError) : (RunReport.ofResult (.error e)).exitCode ≠ 0 :=
    Nat.one_ne_zero
  by_cases hfiles : ∃ m a, FilesRead t model columns m a
  · obtain ⟨m, a, hfiles⟩ := hfiles
    obtain ⟨text, e, rfl⟩ := hread m a hfiles
    split
    case isTrue hvalid => exact iff_of_true rfl ⟨m, a, hfiles, hvalid⟩
    case isFalse hinvalid =>
      refine iff_of_false (hfailed e) ?_
      rintro ⟨m', a', hfiles', hvalid⟩
      obtain ⟨rfl, rfl⟩ := hfiles.unique hfiles'
      exact hinvalid hvalid
  · obtain ⟨e, rfl⟩ := hunread fun m a h => hfiles ⟨m, a, h⟩
    refine iff_of_false (hfailed e) ?_
    rintro ⟨m, a, h, -⟩
    exact hfiles ⟨m, a, h⟩

section

variable {w : World} {model columns : String}

theorem exitCode_validateFile_iff :
    (RunReport.ofResult (result w (validateFile model columns))).exitCode = 0 ↔
      ∃ m a, FilesRead w.files model columns m a ∧ validate m a = [] :=
  exitCode_ofResult_iff (fun _ _ h => ⟨_, _, result_validateFile h⟩) exists_error_validateFile

theorem exitCode_renderVersion_iff {s : Settings} (hhistory : s.historyPath = none)
    {rendition : Rendition} (hrendition : rendition ≠ .loaderConfig) :
    (RunReport.ofResult
        (result w (renderVersion s rendition (exportOf model columns)))).exitCode = 0 ↔
      ∃ m a, FilesRead w.files model columns m a ∧ validate m a = [] := by
  refine exitCode_ofResult_iff (fun m a h => ?_) (exists_error_renderVersion hhistory rendition)
  obtain ⟨text, htext⟩ := result_renderVersion hhistory hrendition h
  exact ⟨text, _, htext⟩

end

/-- A validation prints the violations, if there are any. -/
theorem output_ofResult_violated (vs : List Violation) :
    (RunReport.ofResult (if vs = [] then .ok "" else .error (.violated vs))).output =
      CommandError.violationLines vs := by
  split
  case isTrue h =>
    subst h
    rfl
  case isFalse h => rfl

/-- An export reports the violations and the error behind them, if there are any. -/
theorem errors_ofResult_rejected (text path : String) (vs : List Violation) :
    (RunReport.ofResult (if vs = [] then .ok text else .error (.rejected path vs))).errors =
      CommandError.violationLines vs ++ if vs = [] then "" else
        "Error: " ++ (CommandError.rejected path vs).message ++ "\n" := by
  split
  case isTrue h =>
    subst h
    rfl
  case isFalse h =>
    show CommandError.violationLines vs ++ "Error: " ++ _ ++ "" ++ "\n" = _
    rw [String.append_empty, String.append_assoc, String.append_assoc, String.append_assoc]

section

variable {w : World} {environment : List (String × String)} {words : List String}

theorem answerOn_run_misuse (session : SessionId) (hwords : Invocation.ofWords? words = none) :
    answerOn w (run session environment words) = .misuse := by
  unfold run
  rw [hwords]
  rfl

/-- The report of a command line whose settings load is that of its command. -/
theorem answerOn_run {s : Settings} {i : Invocation} (session : SessionId)
    (hwords : Invocation.ofWords? words = some i)
    (hsettings : answerOn w (Settings.load i.settingsName environment) = .ok s) :
    answerOn w (run session environment words) =
      .ofResult (result w (runCommand session s i.command)) := by
  unfold run
  rw [hwords]
  exact congrArg RunReport.ofResult (result_step_of_ok (onlyReads_settings _ _) hsettings)

/-- **Validations and exports give the same verdict.** Let the settings load and keep no history,
and let a validation and an export be given the same two paths and nothing else, whatever the files
hold and the clock shows. One of them succeeds exactly when the other one does, which is when the
words are paths, both files are read, and the model has no violations. If the files are read, the
validation prints the violations of the model, and the export reports the same lines in front of its
error, or nothing if there are none. Words that are no paths are misused with both. -/
theorem validate_agrees_with_exports {t : FileTree} (readings readings' : Readings) {s : Settings}
    (hsettings : answerOn ⟨t, readings⟩
      (Settings.load Invocation.defaultSettingsName environment) = .ok s)
    (hhistory : s.historyPath = none) {name : String} (hname : name ∈ exportNames)
    (session session' : SessionId) (model columns : String) :
    let validated := answerOn ⟨t, readings⟩
      (run session environment (fileWords "validate" model columns))
    let exported := answerOn ⟨t, readings'⟩
      (run session' environment (fileWords name model columns))
    (validated.exitCode = 0 ↔ exported.exitCode = 0) ∧
    (validated.exitCode = 0 ↔ IsPath model ∧ IsPath columns ∧
      ∃ m a, FilesRead t model columns m a ∧ validate m a = []) ∧
    (IsPath model → IsPath columns → ∀ m a, FilesRead t model columns m a →
      validated.output = CommandError.violationLines (validate m a) ∧
      exported.errors = validated.output ++ if validate m a = [] then "" else
        "Error: " ++ (CommandError.rejected model (validate m a)).message ++ "\n") ∧
    (¬ (IsPath model ∧ IsPath columns) → validated = .misuse ∧ exported = .misuse) := by
  intro validated exported
  have hsettings' : answerOn ⟨t, readings'⟩
      (Settings.load Invocation.defaultSettingsName environment) = .ok s := by
    have hfiles : (⟨t, readings'⟩ : World).files = (⟨t, readings⟩ : World).files := rfl
    rw [(onlyReads_settings _ _).answerOn_eq hfiles, hsettings]
  obtain ⟨rendition, hrendition, hwords⟩ := ofWords?_export hname
  by_cases hpaths : IsPath model ∧ IsPath columns
  · have hvalidated : validated = .ofResult (result ⟨t, readings⟩ (validateFile model columns)) :=
      answerOn_run session ((ofWords?_validate model columns).trans (if_pos hpaths)) hsettings
    have hexported : exported = .ofResult
        (result ⟨t, readings'⟩ (renderVersion s rendition (exportOf model columns))) :=
      answerOn_run session' ((hwords model columns).trans (if_pos hpaths)) hsettings'
    have hvalid : validated.exitCode = 0 ↔
        ∃ m a, FilesRead t model columns m a ∧ validate m a = [] := by
      rw [hvalidated, exitCode_validateFile_iff]
    have hexport : exported.exitCode = 0 ↔
        ∃ m a, FilesRead t model columns m a ∧ validate m a = [] := by
      rw [hexported, exitCode_renderVersion_iff hhistory hrendition]
    refine ⟨hvalid.trans hexport.symm, ?_, fun _ _ m a hread => ?_, absurd hpaths⟩
    · rw [hvalid]
      exact ⟨fun h => ⟨hpaths.1, hpaths.2, h⟩, fun h => h.2.2⟩
    · have houtput : validated.output = CommandError.violationLines (validate m a) := by
        rw [hvalidated, result_validateFile hread, output_ofResult_violated]
      obtain ⟨text, htext⟩ :=
        result_renderVersion (w := ⟨t, readings'⟩) hhistory hrendition hread
      refine ⟨houtput, ?_⟩
      rw [houtput, hexported, htext, errors_ofResult_rejected]
  · have hvalidated : validated = .misuse :=
      answerOn_run_misuse session ((ofWords?_validate model columns).trans (if_neg hpaths))
    have hexported : exported = .misuse :=
      answerOn_run_misuse session' ((hwords model columns).trans (if_neg hpaths))
    have hmisuse : RunReport.misuse.exitCode ≠ 0 := Nat.succ_ne_zero 1
    rw [hvalidated, hexported]
    refine ⟨Iff.rfl, iff_of_false hmisuse ?_, ?_, fun _ => ⟨rfl, rfl⟩⟩
    · rintro ⟨hmodel, hcolumns, -⟩
      exact hpaths ⟨hmodel, hcolumns⟩
    · intro hmodel hcolumns
      exact absurd ⟨hmodel, hcolumns⟩ hpaths

end

section

open History (personAccepted)

/-- The columns of a file without the only one that the model of `personAccepted` is read from. -/
def narrowColumns : AllowedColumns := .perFile (.ofList [("people.csv", ["full_name"])])

/-- A model and columns that it is not accepted for, in files. -/
def narrowFiles : FileTree where
  entries :=
    [(["person.json"], .file (FileTree.encodeText personAccepted.model.document.prettyText)),
      (["-"], .file (FileTree.encodeText narrowColumns.toJson.pretty))]

/-- The report of a command on these files. -/
def narrowReport (name : String) : RunReport :=
  answerOn ⟨narrowFiles, fun i => ⟨2024, 2, 29, 23, 59, 60, i⟩⟩
    (run ⟨0⟩ [] (fileWords name "person.json" "-"))

/-- A property that is read from a missing column is two violations if it is unique: the validation
prints both, and the export reports the same text and fails. -/
theorem validate_agrees_with_exports_narrow :
    (validate personAccepted.model narrowColumns).length = 2 ∧
    (narrowReport "validate").output =
      CommandError.violationLines (validate personAccepted.model narrowColumns) ∧
    (narrowReport "script").errors =
      (narrowReport "validate").output ++ "Error: person.json has 2 schema violation(s)\n" ∧
    (narrowReport "validate").exitCode ≠ 0 ∧ (narrowReport "script").exitCode ≠ 0 := by
  have hread : FilesRead narrowFiles "person.json" "-" personAccepted.model narrowColumns :=
    ⟨FileTree.reads_of_encodeText rfl rfl (modelOfText_prettyText _),
      FileTree.reads_of_encodeText rfl rfl (AllowedColumns.ofText_pretty _)⟩
  have hsettings : answerOn ⟨narrowFiles, fun i => ⟨2024, 2, 29, 23, 59, 60, i⟩⟩
      (Settings.load Invocation.defaultSettingsName []) = .ok .default := rfl
  have hscript : "script" ∈ exportNames := by decide
  have hinvalid : validate personAccepted.model narrowColumns ≠ [] := by decide
  obtain ⟨hverdict, hvalid, hlines, -⟩ :=
    validate_agrees_with_exports _ (fun i => ⟨2024, 2, 29, 23, 59, 60, i⟩) hsettings rfl hscript ⟨0⟩
      ⟨0⟩ "person.json" "-"
  obtain ⟨houtput, herrors⟩ := hlines (by decide) (by decide) _ _ hread
  have hmessage : "Error: " ++ (CommandError.rejected "person.json"
      (validate personAccepted.model narrowColumns)).message ++ "\n" =
      "Error: person.json has 2 schema violation(s)\n" := by decide
  rw [if_neg hinvalid, hmessage] at herrors
  have hfails : (narrowReport "validate").exitCode ≠ 0 := by
    intro hsucceeds
    obtain ⟨-, -, m, a, hread', hvalid'⟩ := hvalid.1 hsucceeds
    obtain ⟨rfl, rfl⟩ := hread.unique hread'
    exact hinvalid hvalid'
  exact ⟨by decide, houtput, herrors, hfails, mt hverdict.2 hfails⟩

end

end GraphIngest.CommandLine
