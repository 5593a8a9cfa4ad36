import GraphIngest.CommandLine.Run
import GraphIngest.Proofs.History.Files
import GraphIngest.Proofs.Refinement.FirstRun

/-!
# What the command line reads

Settings, columns, models and drafts are read, and versions are rendered, without changing a file.

* `onlyReads_settings`, `onlyReads_render` — loading settings and rendering leave the world alone;
* `parses_readColumns`, `parses_readModel`, `parses_readDraft` — what is read is what the text of
  the file is parsed as;
* `answerOn_readModel_eq_error_iff` — why a model is not read.
-/

namespace GraphIngest

open CommandLine

variable {w : World} {path : String}

/-! ## Settings -/

theorem onlyReads_lookAt (path : String) : OnlyReads (SettingsFile.lookAt path) := by
  refine (onlyReads_readText path).bind fun r => ?_
  split <;> exact onlyReads_pure _

theorem onlyReads_findAmong (name : String) (extensions : List (String × SettingsFormat)) :
    OnlyReads (SettingsFile.findAmong name extensions) := by
  induction extensions with
  | nil => exact onlyReads_pure _
  | cons e more ih =>
    refine (onlyReads_lookAt _).bind fun look => ?_
    cases look with
    | missing => exact ih
    | binary => exact onlyReads_pure _
    | found s => exact onlyReads_pure _

theorem onlyReads_find (name : String) : OnlyReads (SettingsFile.find name) := by
  refine (onlyReads_lookAt name).bind fun look => ?_
  cases look with
  | missing =>
    dsimp only
    split
    · exact onlyReads_pure _
    · exact onlyReads_findAmong name _
  | binary => exact onlyReads_pure _
  | found s => exact onlyReads_pure _

theorem onlyReads_settings (name : String) (environment : List (String × String)) :
    OnlyReads (Settings.load name environment) := by
  refine (onlyReads_find name).bind fun file? => ?_
  split
  · exact onlyReads_pure _
  · split <;> exact onlyReads_pure _

/-! ## Rendering -/

theorem onlyReads_optionStatements (code? : Option IngestCode) :
    OnlyReads (IngestCode.optionStatements code?) := by
  cases code? with
  | none => exact onlyReads_pure _
  | some code =>
    cases code with
    | text s => exact onlyReads_pure _
    | statements ss => exact onlyReads_pure _
    | file path =>
      refine (onlyReads_readText path).bind fun r => ?_
      cases r <;> exact onlyReads_pure _

theorem onlyReads_loaderConfig (model : Model) (strategy : Strategy) (options : LoaderOptions) :
    OnlyReads (model.loaderConfig strategy options) := by
  refine (onlyReads_optionStatements _).bind fun before => ?_
  cases before with
  | error e => exact onlyReads_pure _
  | ok before =>
    refine (onlyReads_optionStatements _).bind fun after => ?_
    cases after with
    | error e => exact onlyReads_pure _
    | ok after =>
      dsimp only
      split <;> exact onlyReads_pure _

theorem onlyReads_render (rendition : Rendition) (h : History) (version : Int)
    (strategy : Strategy) (options : LoaderOptions) :
    OnlyReads (render rendition h version strategy options) := by
  unfold render
  split
  · exact onlyReads_pure _
  · rename_i snapshot _
    have hmodel : OnlyReads (renderModel rendition snapshot.model strategy options) := by
      cases rendition with
      | loaderConfig => exact (onlyReads_loaderConfig _ _ _).bind fun _ => onlyReads_pure _
      | constraints => exact onlyReads_pure _
      | script => exact onlyReads_pure _
      | document => exact onlyReads_pure _
      | diagram => exact onlyReads_pure _
    refine hmodel.bind fun r => ?_
    cases r <;> exact onlyReads_pure _

/-! ## Columns, models and drafts -/

theorem onlyReads_readFile (path : String) : OnlyReads (readFile path) := by
  refine (onlyReads_readText path).bind fun r => ?_
  cases r <;> exact onlyReads_pure _

theorem answerOn_readFile (w : World) (path : String) :
    answerOn w (readFile path) = (w.files.readText path).mapError (.unreadable path) := by
  refine ((onlyReads_readText path).answer_bind _).trans ?_
  have hread : answerOn w (FileAccess.readText path) = w.files.readText path := rfl
  rw [hread]
  cases w.files.readText path <;> rfl

theorem answerOn_readFile_eq_ok_iff {s : String} :
    answerOn w (readFile path) = .ok s ↔ w.files.readText path = .ok s := by
  rw [answerOn_readFile, mapError_eq_ok_iff]

theorem parses_readColumns (path : String) :
    Parses (readColumns path) path AllowedColumns.ofText := by
  refine (onlyReads_readFile path).parses (fun _ _ => answerOn_readFile_eq_ok_iff)
    (fun e => ⟨_, rfl⟩) fun s => ⟨.malformedColumns path, ?_⟩
  dsimp only
  cases AllowedColumns.ofText s <;> rfl

theorem parses_readModel (path : String) : Parses (readModel path) path Model.ofText := by
  refine (onlyReads_readFile path).parses (fun _ _ => answerOn_readFile_eq_ok_iff)
    (fun e => ⟨_, rfl⟩) fun s => ⟨.invalidModel path, ?_⟩
  dsimp only
  cases Model.ofText s <;> rfl

theorem answerOn_readModel (w : World) (path : String) :
    answerOn w (readModel path) = answerOn w (readFile path) >>= fun s =>
      (Model.ofText s).mapError (.invalidModel path) := by
  refine ((onlyReads_readFile path).answer_bind _).trans ?_
  cases answerOn w (readFile path) with
  | error e => rfl
  | ok s =>
    show _ = (Model.ofText s).mapError (CommandError.invalidModel path)
    dsimp only
    cases Model.ofText s <;> rfl

/-- A model is not read because the file has no text, or because the text is no model. -/
theorem answerOn_readModel_eq_error_iff {e : CommandError} :
    answerOn w (readModel path) = .error e ↔
      (∃ cause, w.files.readText path = .error cause ∧ .unreadable path cause = e) ∨
      ∃ s, w.files.readText path = .ok s ∧
        ∃ fault, Model.ofText s = .error fault ∧ .invalidModel path fault = e := by
  rw [answerOn_readModel, bind_eq_error, answerOn_readFile]
  simp only [mapError_eq_ok_iff, mapError_eq_error_iff]

theorem parses_readDraft (path : String) : Parses (readDraft path) path Document.ofText := by
  refine (onlyReads_readText path).parses (fun _ _ => Iff.rfl) (fun e => ⟨_, rfl⟩) fun s =>
    ⟨fun f => ⟨["parsing draft " ++ path, "Serialization error: " ++ f.message, f.message]⟩, ?_⟩
  dsimp only
  cases Document.ofText s <;> rfl

end GraphIngest
