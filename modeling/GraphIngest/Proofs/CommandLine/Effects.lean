import GraphIngest.Proofs.CommandLine.Appended
import GraphIngest.Proofs.CommandLine.Arguments

/-!
# What a command does to files

A command reads until it has all that it appends, saves the history once, and then only reads. So it
either saves the history that it opened with the models that it accepts, or changes nothing.

* `leaves_step_of_ok`, `leaves_step_of_error` — a step that only reads goes on with its answer in
  the same world, or fails there;
* `Command.Accepts` — what a command accepts, said of its arguments and the files;
* `effect_runCommand` — what a command leaves behind.
-/

namespace GraphIngest.CommandLine

/-! ## Steps -/

section

variable {ε α β : Type} {w w' : World} {x : StateM World (Except ε α)}
  {reason : ε → CommandError} {k : α → ExceptT CommandError (StateM World) β}

/-- The files that a computation leaves behind. -/
def leaves (w : World) (x : ExceptT CommandError (StateM World) β) : FileTree :=
  (x.run.run w).2.files

theorem run_step_ok {a : α} (hx : x.run w = (.ok a, w')) :
    (step reason x >>= k).run.run w = (k a).run.run w' := by
  have hstep : (step reason x).run.run w = (.ok a, w') := run_bind_of_run hx _
  rw [ExceptT.run_bind, run_bind_of_run hstep]

theorem run_step_error {e : ε} (hx : x.run w = (.error e, w')) :
    (step reason x >>= k).run.run w = (.error (reason e), w') := by
  have hstep : (step reason x).run.run w = (.error (reason e), w') := run_bind_of_run hx _
  rw [ExceptT.run_bind, run_bind_of_run hstep]
  rfl

theorem run_lift {x : StateM World α} {a : α} (hx : x.run w = (a, w'))
    (k : α → ExceptT CommandError (StateM World) β) :
    (ExceptT.lift x >>= k).run.run w = (k a).run.run w' := by
  have hlift : (ExceptT.lift x : ExceptT CommandError _ α).run.run w = (.ok a, w') := by
    rw [ExceptT.run_lift, StateT.run_map, hx]
    rfl
  rw [ExceptT.run_bind, run_bind_of_run hlift]

theorem leaves_step_ok {a : α} (hx : x.run w = (.ok a, w')) :
    leaves w (step reason x >>= k) = leaves w' (k a) :=
  congrArg (World.files ∘ Prod.snd) (run_step_ok hx)

theorem leaves_step_error {e : ε} (hx : x.run w = (.error e, w')) :
    leaves w (step reason x >>= k) = w'.files :=
  congrArg (World.files ∘ Prod.snd) (run_step_error hx)

/-- Behind the last step that writes, its files stay. -/
theorem leaves_last_step (hk : ∀ w a, leaves w (k a) = w.files) :
    leaves w (step reason x >>= k) = (x.run w).2.files := by
  cases hx : x.run w with
  | mk answer w' =>
    cases answer with
    | error e => exact leaves_step_error hx
    | ok a => rw [leaves_step_ok hx, hk]

theorem leaves_step_of_ok (hx : OnlyReads x) {a : α} (ha : answerOn w x = .ok a) :
    leaves w (step reason x >>= k) = leaves w (k a) :=
  leaves_step_ok (ha ▸ hx.run_eq w)

theorem leaves_step_of_error (hx : OnlyReads x) {e : ε} (he : answerOn w x = .error e) :
    leaves w (step reason x >>= k) = w.files :=
  leaves_step_error (he ▸ hx.run_eq w)

theorem leaves_lift {x : StateM World α} {a : α} (hx : x.run w = (a, w'))
    (k : α → ExceptT CommandError (StateM World) β) :
    leaves w (ExceptT.lift x >>= k) = leaves w' (k a) :=
  congrArg (World.files ∘ Prod.snd) (run_lift hx k)

theorem leaves_only_step (hx : OnlyReads x) : leaves w (step reason x) = w.files := by
  unfold leaves
  refine (congrArg (World.files ∘ Prod.snd) (hx.run_bind _ w)).trans ?_
  cases answerOn w x <;> rfl

/-- Saving does not depend on the clock. -/
theorem files_saveHistory_later (h : History) (path? : Option String) (w : World) (n : Nat) :
    ((saveHistory h path? : StateM World _).run (w.later n)).2.files =
      ((saveHistory h path? : StateM World _).run w).2.files := by
  cases path? with
  | none => rfl
  | some path =>
    rw [saveHistory, History.run_save_later]
    rfl

end

/-! ## What a command accepts -/

/-- The file that a command keeps its history in. -/
def Command.historyPath? (s : Settings) : Command → Option String
  | .validate _ _ => none
  | .render _ r => r.history?.or s.historyPath
  | .refine r => r.history?.or s.historyPath

/-- A command accepts models, in the order in which they are appended and at these times: an export
the models of its files, if there are any, and a refinement the first accepted one of its drafts. A
refinement reads the clock when it begins and twice for each draft. -/
inductive Command.Accepts (s : Settings) (w : World) :
    Command → Readings → List AcceptedModel → Prop where
  | render {rendition : Rendition} {r : RenderArguments} {strategy : Strategy} {path : String}
      {columns : AllowedColumns} {vs : List AcceptedModel} (hmodels : r.models ≠ [])
      (hstrategy : chooseStrategy s r.strategy? = .ok strategy) (hpath : r.columns? = some path)
      (hcolumns : w.files.Reads path AllowedColumns.ofText columns)
      (haccepted : List.Forall₂ (AcceptedAt w.files columns) r.models vs) :
      Accepts s w (.render rendition r) w.readings vs
  | refine {r : RefineArguments} {columns : AllowedColumns} {i : Nat} {v : AcceptedModel}
      (hcolumns : w.files.Reads r.columns AllowedColumns.ofText columns)
      (haccepted :
        FirstAccepted w.files columns (r.maxRetries?.getD s.maxRetries) r.drafts i v) :
      Accepts s w (.refine r) (w.readings.later (2 * i + 3)) [v]

namespace Command.Accepts

variable {s : Settings} {w : World} {c : Command} {times times' : Readings}
  {vs vs' : List AcceptedModel}

theorem unique (hvs : c.Accepts s w times vs) (hvs' : c.Accepts s w times' vs') :
    times = times' ∧ vs = vs' := by
  cases hvs with
  | @render _ _ _ _ columns _ _ _ hpath hcolumns haccepted =>
    cases hvs' with
    | render _ _ hpath' hcolumns' haccepted' =>
      have hunique : Relator.RightUnique (AcceptedAt w.files columns) :=
        fun _ _ _ => AcceptedAt.unique
      cases hpath.symm.trans hpath'
      cases hcolumns.unique hcolumns'
      exact ⟨rfl, List.right_unique_forall₂' hunique haccepted haccepted'⟩
  | refine hcolumns haccepted =>
    cases hvs' with
    | refine hcolumns' haccepted' =>
      cases hcolumns.unique hcolumns'
      obtain ⟨rfl, rfl⟩ := haccepted.unique haccepted'
      exact ⟨rfl, rfl⟩

/-- No more models are accepted than a command names. -/
theorem length_le (hvs : c.Accepts s w times vs) : vs.length ≤ c.sources.length := by
  cases hvs with
  | render _ _ _ _ haccepted => exact Nat.le_of_eq haccepted.length_eq.symm
  | refine _ haccepted => exact haccepted.length_pos

theorem ne_nil (hvs : c.Accepts s w times vs) : vs ≠ [] := by
  cases hvs with
  | render hmodels _ _ _ haccepted =>
    rintro rfl
    exact hmodels (List.forall₂_nil_right_iff.1 haccepted)
  | refine _ _ => exact List.cons_ne_nil _ _

/-- The times are readings of the clock. -/
theorem exists_of_readings (hvs : c.Accepts s w times vs) (hnow : ∀ i, (w.readings i).Exists)
    (i : Nat) : (times i).Exists := by
  cases hvs with
  | render _ _ _ _ _ => exact hnow i
  | refine _ _ => exact hnow _

end Command.Accepts

/-- A command saves the history that it opened with the models that it accepts, or changes nothing
because there is no such history or it accepts nothing. -/
inductive Effect (s : Settings) (w : World) (c : Command) : FileTree → Prop where
  | saves {h : History} {times : Readings} {vs : List AcceptedModel}
      (hopen : answerOn w (History.openAt (c.historyPath? s)) = .ok h)
      (haccepts : c.Accepts s w times vs) :
      Effect s w c
        ((saveHistory (h.extend times vs) (c.historyPath? s) : StateM World _).run w).2.files
  | nothing
      (hnone : ∀ h times vs, answerOn w (History.openAt (c.historyPath? s)) = .ok h →
        ¬ c.Accepts s w times vs) :
      Effect s w c w.files

section

variable {s : Settings} {w : World}

theorem not_accepts_validate {model columns : String} {times : Readings}
    {vs : List AcceptedModel} : ¬ (Command.validate model columns).Accepts s w times vs := by
  intro h
  cases h

theorem leaves_validateFile (model columns : String) :
    leaves w (validateFile model columns) = w.files := by
  unfold validateFile
  cases hmodel : answerOn w (readModel model) with
  | error e => rw [leaves_step_of_error (parses_readModel model).onlyReads hmodel]
  | ok m =>
    rw [leaves_step_of_ok (parses_readModel model).onlyReads hmodel]
    cases hcolumns : answerOn w (readColumns columns) with
    | error e => rw [leaves_step_of_error (parses_readColumns columns).onlyReads hcolumns]
    | ok a =>
      rw [leaves_step_of_ok (parses_readColumns columns).onlyReads hcolumns]
      split <;> rfl

/-! ## Exports -/

theorem onlyReads_readOptionalColumns (path? : Option String) :
    OnlyReads (readOptionalColumns path?) := by
  cases path? with
  | none => exact onlyReads_pure _
  | some path => exact (parses_readColumns path).onlyReads.bind fun _ => onlyReads_pure _

theorem answerOn_readOptionalColumns_some (path : String) :
    answerOn w (readOptionalColumns (some path)) = (answerOn w (readColumns path)).map some :=
  (parses_readColumns path).onlyReads.answer_bind _

theorem answerOn_readOptionalColumns_eq_some_iff {path? : Option String} {a : AllowedColumns} :
    answerOn w (readOptionalColumns path?) = .ok (some a) ↔
      ∃ path, path? = some path ∧ w.files.Reads path AllowedColumns.ofText a := by
  cases path? with
  | none =>
    constructor
    · intro h
      cases h
    · rintro ⟨path, h, -⟩
      cases h
  | some path =>
    rw [answerOn_readOptionalColumns_some]
    constructor
    · intro h
      cases hread : answerOn w (readColumns path) with
      | error e =>
        rw [hread] at h
        cases h
      | ok a' =>
        rw [hread] at h
        cases h
        exact ⟨path, rfl, (parses_readColumns _).answer_iff.1 hread⟩
    · rintro ⟨path', hpath, hreads⟩
      cases hpath
      rw [(parses_readColumns _).answer_iff.2 hreads]
      rfl

/-- Without models nothing is appended; otherwise all models are, or the run fails. -/
theorem appendModels_spec (w : World) (h : History) (paths : List String)
    (columns? : Option AllowedColumns) :
    (paths = [] ∧ (appendModels h paths columns? : StateM World _).run w = ((.ok (), h), w)) ∨
    (paths ≠ [] ∧ ∃ a vs, columns? = some a ∧ List.Forall₂ (AcceptedAt w.files a) paths vs ∧
      (appendModels h paths columns? : StateM World _).run w =
        ((.ok (), h.extend w.readings vs), w.later vs.length)) ∨
    ((∀ a vs, columns? = some a → ¬ List.Forall₂ (AcceptedAt w.files a) paths vs) ∧
      ∃ e h' n, (appendModels h paths columns? : StateM World _).run w =
        ((.error e, h'), w.later n)) := by
  cases paths with
  | nil => exact .inl ⟨rfl, rfl⟩
  | cons path paths =>
    refine .inr ?_
    cases columns? with
    | none => exact .inr ⟨nofun, _, _, 0, by rw [World.later_zero]; rfl⟩
    | some a =>
      rcases appendFiles_spec w a (path :: paths) h with ⟨vs, hvs, hrun⟩ | ⟨hnone, hrun⟩
      · exact .inl ⟨List.cons_ne_nil _ _, a, vs, rfl, hvs, hrun⟩
      · refine .inr ⟨fun a' vs ha => ?_, hrun⟩
        cases ha
        exact hnone vs

theorem effect_renderVersion (rendition : Rendition) (r : RenderArguments) :
    Effect s w (.render rendition r) (leaves w (renderVersion s rendition r)) := by
  unfold renderVersion
  cases hstrategy : chooseStrategy s r.strategy? with
  | error e =>
    rw [leaves_step_of_error (onlyReads_pure (.error e)) rfl]
    refine .nothing fun h times vs _ haccepts => ?_
    cases haccepts with
    | render _ hstrategy' => exact nomatch hstrategy.symm.trans hstrategy'
  | ok strategy =>
    rw [leaves_step_of_ok (onlyReads_pure (.ok strategy)) rfl]
    cases hcolumns : answerOn w (readOptionalColumns r.columns?) with
    | error e =>
      rw [leaves_step_of_error (onlyReads_readOptionalColumns _) hcolumns]
      refine .nothing fun h times vs _ haccepts => ?_
      cases haccepts with
      | render _ _ hpath hreads =>
        exact nomatch hcolumns.symm.trans
          (answerOn_readOptionalColumns_eq_some_iff.2 ⟨_, hpath, hreads⟩)
    | ok columns? =>
      rw [leaves_step_of_ok (onlyReads_readOptionalColumns _) hcolumns]
      cases hopen : answerOn w (History.openAt (r.history?.or s.historyPath)) with
      | error e =>
        rw [leaves_step_of_error (History.onlyReads_openAt _) hopen]
        exact .nothing fun h _ vs hopen' _ => nomatch hopen.symm.trans hopen'
      | ok h =>
        rw [leaves_step_of_ok (History.onlyReads_openAt _) hopen]
        rcases appendModels_spec w h r.models columns? with
          ⟨hempty, hrun⟩ | ⟨hmodels, a, vs, rfl, hvs, hrun⟩ | ⟨hnone, e, h', n, hrun⟩
        · have hskip : ¬ (!r.models.isEmpty) = true := by simp [hempty]
          rw [leaves_lift hrun]
          dsimp only
          rw [leaves_step_of_ok (onlyReads_pure (.ok ())) rfl, if_neg hskip,
            leaves_only_step (onlyReads_render _ _ _ _ _)]
          refine .nothing fun h _ vs _ haccepts => ?_
          cases haccepts with
          | render hmodels => exact hmodels hempty
        · have hsave : (!r.models.isEmpty) = true := by simpa using hmodels
          obtain ⟨path, hpath, hreads⟩ := answerOn_readOptionalColumns_eq_some_iff.1 hcolumns
          rw [leaves_lift hrun]
          dsimp only
          rw [leaves_step_of_ok (onlyReads_pure (.ok ())) rfl, if_pos hsave,
            leaves_last_step fun _ _ => leaves_only_step (onlyReads_render _ _ _ _ _),
            files_saveHistory_later]
          exact .saves hopen (.render hmodels hstrategy hpath hreads hvs)
        · rw [leaves_lift hrun]
          dsimp only
          rw [leaves_step_of_error (onlyReads_pure (.error e)) rfl]
          refine .nothing fun h _ vs _ haccepts => ?_
          cases haccepts with
          | render _ _ hpath hreads hvs =>
            have hsome := answerOn_readOptionalColumns_eq_some_iff.2 ⟨_, hpath, hreads⟩
            exact hnone _ vs (Except.ok.inj (hcolumns.symm.trans hsome)) hvs

/-! ## Refinements -/

theorem effect_refineFiles (session : SessionId) (r : RefineArguments) :
    Effect s w (.refine r) (leaves w (refineFiles session s r)) := by
  unfold refineFiles
  cases hcolumns : answerOn w (readColumns r.columns) with
  | error e =>
    rw [leaves_step_of_error (parses_readColumns _).onlyReads hcolumns]
    refine .nothing fun h _ vs _ haccepts => ?_
    cases haccepts with
    | refine hreads =>
      exact nomatch hcolumns.symm.trans ((parses_readColumns _).answer_iff.2 hreads)
  | ok a =>
    rw [leaves_step_of_ok (parses_readColumns _).onlyReads hcolumns]
    have hreads : w.files.Reads r.columns AllowedColumns.ofText a :=
      (parses_readColumns _).answer_iff.1 hcolumns
    cases hopen : answerOn w (History.openAt (r.history?.or s.historyPath)) with
    | error e =>
      rw [leaves_step_of_error (History.onlyReads_openAt _) hopen]
      exact .nothing fun h _ vs hopen' _ => nomatch hopen.symm.trans hopen'
    | ok h =>
      obtain ⟨result, n, hrun, hends⟩ :=
        refineDrafts_spec w session r.drafts a (r.maxRetries?.getD s.maxRetries) h
      rw [leaves_step_of_ok (History.onlyReads_openAt _) hopen, leaves_lift hrun]
      cases hends with
      | @accepted i v report hv houtcome hhistory =>
        have htime : (w.readings.later 1) (2 * i + 2) = w.readings.later (2 * i + 3) 0 :=
          congrArg w.readings (by omega)
        rw [houtcome, leaves_step_of_ok (onlyReads_pure (.ok _)) rfl,
          leaves_last_step fun _ _ => rfl, hhistory, files_saveHistory_later, htime,
          ← History.extend_singleton]
        exact .saves hopen (.refine hreads hv)
      | failed hnone houtcome =>
        rw [houtcome, leaves_step_of_error (onlyReads_pure (.error _)) rfl]
        refine .nothing fun h _ vs _ haccepts => ?_
        cases haccepts with
        | refine hreads' haccepted =>
          rw [hreads'.unique hreads] at haccepted
          exact hnone _ _ haccepted

theorem effect_runCommand (session : SessionId) (s : Settings) (w : World) (c : Command) :
    Effect s w c (leaves w (runCommand session s c)) := by
  cases c with
  | validate model columns =>
    rw [runCommand, leaves_validateFile]
    exact .nothing fun _ _ _ _ => not_accepts_validate
  | render rendition r => exact effect_renderVersion rendition r
  | refine r => exact effect_refineFiles session r

end

end GraphIngest.CommandLine
