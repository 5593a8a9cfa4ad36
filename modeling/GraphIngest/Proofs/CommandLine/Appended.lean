import GraphIngest.Proofs.CommandLine.Accepted

/-!
# Models that are appended from files

The models of files are appended one after the other, up to the first file that fails. Those in
front of it stay appended, and the error is that of the file; what stands behind it is not looked
at.

* `FirstFailure` — the position of the first file that fails, or the number of the files;
* `AcceptedAt.appendFiles`, `FailsAt.appendFiles` — one file is appended, or ends the run;
* `FirstFailure.appendFiles` — what a whole run comes to, told by that position;
* `appendModels_up_to_first_failure` — the same with columns that may not be given.
-/

namespace GraphIngest.CommandLine

variable {t : FileTree} {w : World} {a : AllowedColumns} {path : String} {paths : List String}
  {v : AcceptedModel} {vs : List AcceptedModel} {e : CommandError} {h : History} {j : Nat}

/-! ## The first failure -/

/-- The position of the first file that fails, or the number of the files if none does. -/
structure FirstFailure (t : FileTree) (a : AllowedColumns) (paths : List String) (j : Nat) :
    Prop where
  accepted : ∀ path ∈ paths.take j, ∃ v, AcceptedAt t a path v
  fails : j = paths.length ∨ ∃ path e, paths[j]? = some path ∧ FailsAt t a path e

theorem exists_firstFailure (w : World) (a : AllowedColumns) (paths : List String) :
    ∃ j, FirstFailure w.files a paths j := by
  induction paths with
  | nil => exact ⟨0, nofun, .inl rfl⟩
  | cons path paths ih =>
    rcases acceptedAt_or_failsAt w a path with hv | ⟨e, he⟩
    · obtain ⟨j, haccepted, hfails⟩ := ih
      refine ⟨j + 1, ?_, ?_⟩
      · rw [List.take_succ_cons]
        exact List.forall_mem_cons.2 ⟨hv, haccepted⟩
      · rcases hfails with rfl | ⟨path', e, hpath, he⟩
        · exact .inl rfl
        · exact .inr ⟨path', e, hpath, he⟩
    · exact ⟨0, nofun, .inr ⟨path, e, rfl, he⟩⟩

namespace FirstFailure

variable (hj : FirstFailure w.files a paths j)
include hj

theorem le_length : j ≤ paths.length := by
  rcases hj.fails with rfl | ⟨path, e, hpath, -⟩
  · exact Nat.le_refl _
  · obtain ⟨hlt, -⟩ := List.getElem?_eq_some_iff.1 hpath
    exact Nat.le_of_lt hlt

/-- No file fails in front of the first failure. -/
theorem le_of_fails {i : Nat} (hpath : paths[i]? = some path) (he : FailsAt w.files a path e) :
    j ≤ i := by
  refine Nat.le_of_not_lt fun hlt => ?_
  have hmem : path ∈ paths.take j :=
    List.mem_of_getElem? ((List.getElem?_take_of_lt hlt).trans hpath)
  obtain ⟨v, hv⟩ := hj.accepted path hmem
  exact he.not_accepted hv

theorem le {j' : Nat} (hj' : FirstFailure w.files a paths j') : j ≤ j' := by
  rcases hj'.fails with rfl | ⟨path, e, hpath, he⟩
  · exact hj.le_length
  · exact hj.le_of_fails hpath he

end FirstFailure

theorem existsUnique_firstFailure (w : World) (a : AllowedColumns) (paths : List String) :
    ∃! j, FirstFailure w.files a paths j := by
  obtain ⟨j, hj⟩ := exists_firstFailure w a paths
  exact ⟨j, hj, fun _ hj' => Nat.le_antisymm (hj'.le hj) (hj.le hj')⟩

/-! ## One file after the other -/

theorem run_appendFiles_cons (w : World) (a : AllowedColumns) (path : String)
    (paths : List String) (h : History) :
    (appendFiles a (path :: paths) h : StateM World _).run w =
      match answerOn w (readAccepted path a) with
      | .error e => ((.error e, h), w)
      | .ok v =>
        (appendFiles a paths (h.append (w.readings 0) v) : StateM World _).run (w.later 1) := by
  refine ((onlyReads_readAccepted path a).run_bind _ w).trans ?_
  cases answerOn w (readAccepted path a) <;> rfl

/-- An accepted model is the next version, at its own time, in front of what comes behind it. -/
theorem AcceptedAt.appendFiles (hv : AcceptedAt w.files a path v) (paths : List String) :
    (appendFiles a (path :: paths) h : StateM World _).run w =
      (appendFiles a paths (h.append (w.readings 0) v) : StateM World _).run (w.later 1) := by
  rw [run_appendFiles_cons, answerOn_readAccepted_eq_ok_iff.2 hv]

/-- A file that fails ends the run, whatever stands behind it. -/
theorem FailsAt.appendFiles (he : FailsAt w.files a path e) (paths : List String) :
    (appendFiles a (path :: paths) h : StateM World _).run w = ((.error e, h), w) := by
  rw [run_appendFiles_cons, answerOn_readAccepted_eq_error_iff.2 he]

/-- Accepted models are the next versions in front of what comes behind them. -/
theorem appendFiles_append (hvs : List.Forall₂ (AcceptedAt t a) paths vs) (hw : w.files = t)
    (rest : List String) (h : History) :
    (appendFiles a (paths ++ rest) h : StateM World _).run w =
      (appendFiles a rest (h.extend w.readings vs) : StateM World _).run (w.later vs.length) := by
  induction hvs generalizing h w with
  | nil => rw [History.extend_nil, List.nil_append, List.length_nil, World.later_zero]
  | cons hv _ ih =>
    subst hw
    rw [List.cons_append, hv.appendFiles, ih (w := w.later 1) rfl, History.extend_cons,
      World.later_later, List.length_cons, Nat.add_comm]
    rfl

theorem appendFiles_accepted (hvs : List.Forall₂ (AcceptedAt w.files a) paths vs) (h : History) :
    (appendFiles a paths h : StateM World _).run w =
      ((.ok (), h.extend w.readings vs), w.later vs.length) := by
  have hrun := appendFiles_append hvs rfl [] h
  rw [List.append_nil] at hrun
  exact hrun

/-- **The models in front of the first failure are appended**, and the run fails with it if there is
one. -/
theorem FirstFailure.appendFiles (hj : FirstFailure w.files a paths j) (h : History) :
    ∃ vs result, List.Forall₂ (AcceptedAt w.files a) (paths.take j) vs ∧
      (appendFiles a paths h : StateM World _).run w =
        ((result, h.extend w.readings vs), w.later vs.length) ∧
      (result = .ok () ↔ j = paths.length) ∧
      ∀ e, result = .error e ↔ ∃ path, paths[j]? = some path ∧ FailsAt w.files a path e := by
  obtain ⟨vs, hvs⟩ := exists_forall₂ hj.accepted
  have hrun := appendFiles_append hvs rfl (paths.drop j) h
  rw [List.take_append_drop] at hrun
  -- Behind the accepted files stands nothing, or the file that fails with the rest.
  rcases hj.fails with rfl | ⟨path, e, hpath, he⟩
  · rw [List.drop_length] at hrun
    refine ⟨vs, .ok (), hvs, hrun, iff_of_true rfl rfl, fun e => iff_of_false nofun ?_⟩
    rintro ⟨path, hpath, -⟩
    exact nomatch (List.getElem?_eq_none (Nat.le_refl _)).symm.trans hpath
  · obtain ⟨hlt, hget⟩ := List.getElem?_eq_some_iff.1 hpath
    have hfails : FailsAt (w.later vs.length).files a path e := he
    rw [List.drop_eq_getElem_cons hlt, hget, hfails.appendFiles] at hrun
    refine ⟨vs, .error e, hvs, hrun, iff_of_false nofun (Nat.ne_of_lt hlt), fun e' => ?_⟩
    constructor
    · intro h
      cases h
      exact ⟨path, hpath, he⟩
    · rintro ⟨path', hpath', he'⟩
      cases hpath.symm.trans hpath'
      rw [he.unique he']

/-- All models are appended in their order, or the run fails because one of them is not accepted. -/
theorem appendFiles_spec (w : World) (a : AllowedColumns) (paths : List String) (h : History) :
    (∃ vs, List.Forall₂ (AcceptedAt w.files a) paths vs ∧
      (appendFiles a paths h : StateM World _).run w =
        ((.ok (), h.extend w.readings vs), w.later vs.length)) ∨
    ((∀ vs, ¬ List.Forall₂ (AcceptedAt w.files a) paths vs) ∧
      ∃ e h' n, (appendFiles a paths h : StateM World _).run w = ((.error e, h'), w.later n)) := by
  obtain ⟨j, hj⟩ := exists_firstFailure w a paths
  obtain ⟨vs, result, hvs, hrun, hok, -⟩ := hj.appendFiles h
  cases result with
  | ok _ =>
    rw [hok.1 rfl, List.take_length] at hvs
    exact .inl ⟨vs, hvs, hrun⟩
  | error e =>
    refine .inr ⟨fun vs' hvs' => ?_, e, _, _, hrun⟩
    exact nomatch hrun.symm.trans (appendFiles_accepted hvs' h)

/-! ## Columns that may not be given -/

/-- With columns, models are appended from the first file on. -/
theorem appendModels_some (h : History) (paths : List String) (a : AllowedColumns) :
    (appendModels h paths (some a) : StateM World _) = appendFiles a paths h := by
  cases paths <;> rfl

/-- **Models are appended up to the first failure.** Without files there is nothing to append, with
or without columns, and with files but without columns nothing is appended. Otherwise exactly one
position is the first failure: the files in front of it hold accepted models, and the file at it
fails, unless it is the number of the files. The models in front of it are appended as the next
versions in their order, each with the given columns and at its own reading of the clock. The run
succeeds exactly when no file fails, and fails exactly with the error of the first one that does.
No file changes. -/
theorem appendModels_up_to_first_failure (w : World) (h : History) (paths : List String) :
    (∀ columns?, (appendModels h [] columns? : StateM World _).run w = ((.ok (), h), w)) ∧
    (paths ≠ [] → (appendModels h paths none : StateM World _).run w =
      ((.error .columnsMissing, h), w)) ∧
    ∀ a, (∃! j, FirstFailure w.files a paths j) ∧
      ∀ j, FirstFailure w.files a paths j →
        ∃ vs result, List.Forall₂ (AcceptedAt w.files a) (paths.take j) vs ∧
          (appendModels h paths (some a) : StateM World _).run w =
            ((result, h.extend w.readings vs), w.later vs.length) ∧
          (result = .ok () ↔ j = paths.length) ∧
          ∀ e, result = .error e ↔ ∃ path, paths[j]? = some path ∧ FailsAt w.files a path e := by
  refine ⟨fun _ => rfl, fun hpaths => ?_, fun a => ⟨existsUnique_firstFailure w a paths, ?_⟩⟩
  · obtain ⟨path, rest, rfl⟩ := List.exists_cons_of_ne_nil hpaths
    rfl
  · intro j hj
    obtain ⟨vs, result, hvs, hrun, hresult⟩ := hj.appendFiles h
    refine ⟨vs, result, hvs, ?_, hresult⟩
    rw [appendModels_some, hrun]

section

open History (personAccepted)

/-- A model that is read from a column which the columns of `personAccepted` do not have. -/
def strangerModel : Model :=
  ⟨⟨[⟨"Stranger", [⟨"alias", "alias", none, "str", true⟩], "people"⟩], []⟩, by decide⟩

/-- A model that is accepted for these columns and one that is not, in files. -/
def strangerWorld : World where
  files := { entries :=
    [(["person.json"], .file (FileTree.encodeText personAccepted.model.document.prettyText)),
      (["stranger.json"], .file (FileTree.encodeText strangerModel.document.prettyText))] }
  readings i := ⟨2024, 2, 29, 23, 59, 59, i⟩

/-- Paths of both, and behind them of no file. -/
def strangerPaths : List String := ["person.json", "stranger.json", "missing.json"]

/-- The first model becomes version two. The run fails with both violations of the second one, so it
does not come to the file that is missing. Without columns not even the first model is appended. -/
theorem appendModels_up_to_first_failure_stranger :
    ∃ h : History, h.length = 1 ∧
      FirstFailure strangerWorld.files personAccepted.columns strangerPaths 1 ∧
      (appendModels h strangerPaths (some personAccepted.columns) : StateM World _).run
        strangerWorld = ((.error (.rejected "stranger.json"
          (validate strangerModel personAccepted.columns)),
            h.append ⟨2024, 2, 29, 23, 59, 59, 0⟩ personAccepted), strangerWorld.later 1) ∧
      (validate strangerModel personAccepted.columns).length = 2 ∧
      (appendModels h strangerPaths none : StateM World _).run strangerWorld =
        ((.error .columnsMissing, h), strangerWorld) := by
  have hperson : AcceptedAt strangerWorld.files personAccepted.columns "person.json"
      personAccepted := ⟨FileTree.reads_of_encodeText rfl rfl (modelOfText_prettyText _), rfl⟩
  have hstranger : FailsAt strangerWorld.files personAccepted.columns "stranger.json"
      (.rejected "stranger.json" (validate strangerModel personAccepted.columns)) :=
    .rejected (FileTree.reads_of_encodeText rfl rfl (modelOfText_prettyText _)) (by decide)
  have hfirst : FirstFailure strangerWorld.files personAccepted.columns strangerPaths 1 :=
    ⟨List.forall_mem_singleton.2 ⟨_, hperson⟩, .inr ⟨_, _, rfl, hstranger⟩⟩
  obtain ⟨-, hnocolumns, hcolumns⟩ := appendModels_up_to_first_failure strangerWorld
    (History.empty.append ⟨2024, 2, 29, 23, 59, 58, 5⟩ personAccepted) strangerPaths
  obtain ⟨vs, result, hvs, hrun, -, herror⟩ := (hcolumns personAccepted.columns).2 1 hfirst
  have hresult := (herror _).2 ⟨_, rfl, hstranger⟩
  obtain ⟨v, rest, hv, hrest, rfl⟩ := List.forall₂_cons_left_iff.1 hvs
  cases hrest
  rw [hv.unique hperson, hresult, History.extend_singleton] at hrun
  exact ⟨_, rfl, hfirst, hrun, by decide, hnocolumns (List.cons_ne_nil _ _)⟩

end

end GraphIngest.CommandLine
