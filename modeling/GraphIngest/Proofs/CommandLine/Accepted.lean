import GraphIngest.Proofs.CommandLine.Reading
import GraphIngest.Proofs.Model.Texts

/-!
# Models that are accepted from files

A file gives an accepted model, or one of the steps to it is the first that fails: its text is read,
parsed as a document, built to a model, and the model validated. A refinement appends the first
accepted one of its drafts, as long as the corrections last.

* `answerOn_readAccepted_eq_ok_iff`, `answerOn_readAccepted_eq_error_iff` — a file is answered with
  its accepted model, or with the first step that fails;
* `refineDrafts_spec` — either some draft is the first accepted one within the budget and it is
  appended, or the run fails.
-/

namespace GraphIngest.CommandLine

variable {t : FileTree} {w : World} {a : AllowedColumns} {path : String} {paths : List String}
  {v : AcceptedModel} {e : CommandError} {h : History} {readings : Readings}

/-- The file of a path holds a model that is accepted for columns. -/
structure AcceptedAt (t : FileTree) (a : AllowedColumns) (path : String) (v : AcceptedModel) :
    Prop where
  model : t.Reads path Model.ofText v.model
  columns : v.columns = a

/-- The file of a path gives no model that is accepted for columns, for the first reason that there
is, and with the error that reports it. -/
inductive FailsAt (t : FileTree) (a : AllowedColumns) (path : String) : CommandError → Prop where
  /-- The file has no text. -/
  | unread {cause : FileError} (hread : t.readText path = .error cause) :
      FailsAt t a path (.unreadable path cause)
  /-- Its text is no document. -/
  | unparsed {s : String} {fault : Json.Fault} (hread : t.readText path = .ok s)
      (hparse : Document.ofText s = .error fault) :
      FailsAt t a path (.invalidModel path (.json fault))
  /-- Its document is no model. -/
  | unbuilt {d : Document} {issues : List ConstructionIssue}
      (hread : t.Reads path Document.ofText d) (hbuild : d.build = .error issues) :
      FailsAt t a path (.invalidModel path (.construction issues))
  /-- Its model has violations. -/
  | rejected {model : Model} (hread : t.Reads path Model.ofText model)
      (hviolations : validate model a ≠ []) : FailsAt t a path (.rejected path (validate model a))

/-- The file of a path holds a document that is not accepted for columns. -/
structure RejectedAt (t : FileTree) (a : AllowedColumns) (path : String) : Prop where
  document : ∃ d, t.Reads path Document.ofText d
  rejected : ∀ v, ¬ AcceptedAt t a path v

/-- A model is that of the first draft that is accepted, behind a number of rejected drafts. Each of
them costs one correction of the budget. -/
inductive FirstAccepted (t : FileTree) (a : AllowedColumns) :
    Nat → List String → Nat → AcceptedModel → Prop where
  | first {budget : Nat} {path : String} {paths : List String} {v : AcceptedModel}
      (haccepted : AcceptedAt t a path v) : FirstAccepted t a budget (path :: paths) 0 v
  | later {budget i : Nat} {path : String} {paths : List String} {v : AcceptedModel}
      (hrejected : RejectedAt t a path) (hrest : FirstAccepted t a budget paths i v) :
      FirstAccepted t a (budget + 1) (path :: paths) (i + 1) v

theorem AcceptedAt.unique {v' : AcceptedModel} (hv : AcceptedAt t a path v)
    (hv' : AcceptedAt t a path v') : v = v' := by
  have hmodel : v.model = v'.model := hv.model.unique hv'.model
  have hcolumns : v.columns = v'.columns := hv.columns.trans hv'.columns.symm
  cases v
  cases v'
  cases hmodel
  cases hcolumns
  rfl

theorem FirstAccepted.length_pos {budget i : Nat} (hv : FirstAccepted t a budget paths i v) :
    0 < paths.length := by
  cases hv <;> exact Nat.succ_pos _

theorem FirstAccepted.unique {budget i i' : Nat} {v' : AcceptedModel}
    (hv : FirstAccepted t a budget paths i v) (hv' : FirstAccepted t a budget paths i' v') :
    i = i' ∧ v = v' := by
  induction hv generalizing i' with
  | first haccepted =>
    cases hv' with
    | first haccepted' => exact ⟨rfl, haccepted.unique haccepted'⟩
    | later hrejected _ => exact absurd haccepted (hrejected.rejected _)
  | later hrejected _ ih =>
    cases hv' with
    | first haccepted' => exact absurd haccepted' (hrejected.rejected _)
    | later _ hrest =>
      obtain ⟨rfl, rfl⟩ := ih hrest
      exact ⟨rfl, rfl⟩

/-! ## Texts of models -/

theorem modelOfText_eq (s : String) :
    Model.ofText s = (Document.ofText s).mapError .json >>= fun d =>
      d.build.mapError .construction := by
  unfold Model.ofText
  cases Document.ofText s with
  | error fault => rfl
  | ok d =>
    show _ = d.build.mapError ModelFileFault.construction
    dsimp only
    cases d.build <;> rfl

theorem modelOfText_eq_ok_iff {s : String} {model : Model} :
    Model.ofText s = .ok model ↔ ∃ d, Document.ofText s = .ok d ∧ d.build = .ok model := by
  rw [modelOfText_eq, bind_eq_ok]
  simp only [mapError_eq_ok_iff]

theorem modelOfText_eq_error_iff {s : String} {f : ModelFileFault} :
    Model.ofText s = .error f ↔
      (∃ fault, Document.ofText s = .error fault ∧ .json fault = f) ∨
      ∃ d, Document.ofText s = .ok d ∧
        ∃ issues, d.build = .error issues ∧ .construction issues = f := by
  rw [modelOfText_eq, bind_eq_error]
  simp only [mapError_eq_ok_iff, mapError_eq_error_iff]

theorem modelOfText_prettyText (m : Model) : Model.ofText m.document.prettyText = .ok m :=
  modelOfText_eq_ok_iff.2 ⟨m.document, m.document.ofText_prettyText, m.build_document⟩

/-! ## One file -/

theorem onlyReads_readAccepted (path : String) (a : AllowedColumns) :
    OnlyReads (readAccepted path a) := by
  refine (parses_readModel path).onlyReads.bind fun r => ?_
  cases r with
  | error e => exact onlyReads_pure _
  | ok model =>
    dsimp only
    split <;> exact onlyReads_pure _

theorem answerOn_readAccepted (w : World) (path : String) (a : AllowedColumns) :
    answerOn w (readAccepted path a) = answerOn w (readModel path) >>= fun model =>
      (accept model a).mapError (.rejected path) := by
  refine ((parses_readModel path).onlyReads.answer_bind _).trans ?_
  cases answerOn w (readModel path) with
  | error e => rfl
  | ok model =>
    show _ = (accept model a).mapError (CommandError.rejected path)
    dsimp only
    cases accept model a <;> rfl

theorem answerOn_readAccepted_eq_ok_iff :
    answerOn w (readAccepted path a) = .ok v ↔ AcceptedAt w.files a path v := by
  rw [answerOn_readAccepted, bind_eq_ok]
  simp only [mapError_eq_ok_iff, (parses_readModel path).answer_iff, accept_eq_ok_iff]
  constructor
  · rintro ⟨model, hread, rfl, hcolumns⟩
    exact ⟨hread, hcolumns⟩
  · rintro ⟨hread, hcolumns⟩
    exact ⟨v.model, hread, rfl, hcolumns⟩

/-- **A file is answered with the first step that fails.** -/
theorem answerOn_readAccepted_eq_error_iff :
    answerOn w (readAccepted path a) = .error e ↔ FailsAt w.files a path e := by
  rw [answerOn_readAccepted, bind_eq_error, answerOn_readModel_eq_error_iff]
  simp only [mapError_eq_error_iff, modelOfText_eq_error_iff, (parses_readModel path).answer_iff,
    accept_eq_error_iff]
  constructor
  · rintro ((⟨cause, hread, rfl⟩ | ⟨s, hread, _, hfault, rfl⟩) | ⟨model, hread, _, ⟨hne, rfl⟩, rfl⟩)
    · exact .unread hread
    · rcases hfault with ⟨fault, hparse, rfl⟩ | ⟨d, hparse, issues, hbuild, rfl⟩
      · exact .unparsed hread hparse
      · exact .unbuilt ⟨s, hread, hparse⟩ hbuild
    · exact .rejected hread hne
  · intro he
    cases he with
    | unread hread => exact .inl (.inl ⟨_, hread, rfl⟩)
    | unparsed hread hparse => exact .inl (.inr ⟨_, hread, _, .inl ⟨_, hparse, rfl⟩, rfl⟩)
    | unbuilt hread hbuild =>
      obtain ⟨s, hs, hparse⟩ := hread
      exact .inl (.inr ⟨s, hs, _, .inr ⟨_, hparse, _, hbuild, rfl⟩, rfl⟩)
    | rejected hread hviolations => exact .inr ⟨_, hread, _, ⟨hviolations, rfl⟩, rfl⟩

/-- A file gives an accepted model or fails. -/
theorem acceptedAt_or_failsAt (w : World) (a : AllowedColumns) (path : String) :
    (∃ v, AcceptedAt w.files a path v) ∨ ∃ e, FailsAt w.files a path e := by
  cases hread : answerOn w (readAccepted path a) with
  | ok v => exact .inl ⟨v, answerOn_readAccepted_eq_ok_iff.1 hread⟩
  | error e => exact .inr ⟨e, answerOn_readAccepted_eq_error_iff.1 hread⟩

theorem FailsAt.not_accepted (he : FailsAt w.files a path e) : ¬ AcceptedAt w.files a path v := by
  intro hv
  exact nomatch (answerOn_readAccepted_eq_error_iff.2 he).symm.trans
    (answerOn_readAccepted_eq_ok_iff.2 hv)

theorem FailsAt.unique {e' : CommandError} (he : FailsAt w.files a path e)
    (he' : FailsAt w.files a path e') : e = e' :=
  Except.error.inj <| (answerOn_readAccepted_eq_error_iff.2 he).symm.trans
    (answerOn_readAccepted_eq_error_iff.2 he')

/-! ## Drafts of a refinement -/

/-- A document is accepted exactly when its check comes to an accepted model. -/
theorem checkCandidate_eq_ok_iff {d : Document} (hd : t.Reads path Document.ofText d) :
    checkCandidate d a = .ok v ↔ AcceptedAt t a path v := by
  obtain ⟨s, hs, hd⟩ := hd
  constructor
  · intro hcheck
    obtain ⟨hdocument, hcolumns⟩ := Refinement.checkCandidate_eq_ok hcheck
    exact ⟨⟨s, hs, modelOfText_eq_ok_iff.2 ⟨d, hd, Document.build_eq_ok_iff.2 hdocument⟩⟩, hcolumns⟩
  · rintro ⟨⟨s', hs', hmodel⟩, hcolumns⟩
    cases hs.symm.trans hs'
    obtain ⟨d', hd', hbuild⟩ := modelOfText_eq_ok_iff.1 hmodel
    cases hd.symm.trans hd'
    simp [checkCandidate, hbuild, accept_eq_ok_iff.2 ⟨rfl, hcolumns⟩]

theorem rejectedAt_of_check {d : Document} (hd : t.Reads path Document.ofText d) {f : Feedback}
    (hf : checkCandidate d a = .error f) : RejectedAt t a path :=
  ⟨⟨d, hd⟩, fun _ hv => nomatch hf.symm.trans ((checkCandidate_eq_ok_iff hd).2 hv)⟩

theorem AcceptedAt.exists_document (hv : AcceptedAt t a path v) :
    ∃ d, t.Reads path Document.ofText d := by
  obtain ⟨s, hs, hmodel⟩ := hv.model
  obtain ⟨d, hd, -⟩ := modelOfText_eq_ok_iff.1 hmodel
  exact ⟨d, s, hs, hd⟩

namespace FirstAccepted

variable {budget i : Nat}

theorem exists_document (hv : FirstAccepted t a budget (path :: paths) i v) :
    ∃ d, t.Reads path Document.ofText d := by
  cases hv with
  | first haccepted => exact haccepted.exists_document
  | later hrejected _ => exact hrejected.document

/-- No model is that of a draft behind one that cannot be read. -/
theorem not_of_unread {e : SourceFailure} (hread : answerOn w (readDraft path) = .error e) :
    ¬ FirstAccepted w.files a budget (path :: paths) i v := by
  intro hv
  obtain ⟨d, hd⟩ := hv.exists_document
  exact nomatch hread.symm.trans ((parses_readDraft path).answer_iff.2 hd)

theorem not_of_rejected (hrejected : RejectedAt t a path) :
    ¬ FirstAccepted t a 0 (path :: paths) i v := by
  intro hv
  cases hv with
  | first haccepted => exact hrejected.rejected v haccepted

theorem of_rejected (hrejected : RejectedAt t a path)
    (hv : FirstAccepted t a (budget + 1) (path :: paths) i v) :
    ∃ j, FirstAccepted t a budget paths j v := by
  cases hv with
  | first haccepted => exact absurd haccepted (hrejected.rejected v)
  | later _ hrest => exact ⟨_, hrest⟩

end FirstAccepted

/-- A run ends by appending a model that it may accept behind a number of rejected drafts, or fails
because there is none. The clock is read twice for each draft before the model is appended. -/
inductive Ends (readings : Readings) (h : History) (P : Nat → AcceptedModel → Prop)
    (result : RunResult) : Prop where
  | accepted {i : Nat} {v : AcceptedModel} {report : Accepted} (hv : P i v)
      (houtcome : result.outcome = .ok report)
      (hhistory : result.history = h.append (readings (2 * i + 2)) v)
  | failed {e : RefineError} (hnone : ∀ i v, ¬ P i v) (houtcome : result.outcome = .error e)

/-- What a run comes to behind a draft that was rejected. -/
theorem Ends.of_rejected {budget : Nat} {result : RunResult} (hrejected : RejectedAt t a path)
    (hends : Ends (readings.later 2) h (FirstAccepted t a budget paths) result) :
    Ends readings h (FirstAccepted t a (budget + 1) (path :: paths)) result := by
  cases hends with
  | @accepted i v report hv houtcome hhistory =>
    refine .accepted (.later hrejected hv) houtcome (hhistory.trans ?_)
    have hreading : readings.later 2 (2 * i + 2) = readings (2 * (i + 1) + 2) := by
      rw [Readings.later]
      congr 1
      omega
    rw [hreading]
  | failed hnone houtcome =>
    refine .failed (fun i v hv => ?_) houtcome
    obtain ⟨j, hj⟩ := FirstAccepted.of_rejected hrejected hv
    exact hnone j v hj

section

variable {r : Refinement} {d : Document} {f : Feedback}

/-- The rounds of a refinement with drafts in files. -/
def draftRounds (a : AllowedColumns) (h : History) (remaining corrections : Nat) (r : Refinement)
    (d : Document) (pending : List String) : StateM World (RunResult × List String) :=
  (r.validateRounds (m := StateT (List String) (StateM World)) draftSource a h remaining corrections
    d).run pending

theorem run_nextDraft (path : String) (pending : List String) (w : World) :
    ((nextDraft : StateT (List String) (StateM World) _).run (path :: pending)).run w =
      ((answerOn w (readDraft path), pending), w) :=
  (parses_readDraft path).onlyReads.run_bind (fun answer => pure (answer, pending)) w

/-- The clock shows its next reading, whatever drafts are left. -/
theorem run_now_bind {α : Type} (k : Timestamp → StateT (List String) (StateM World) α)
    (pending : List String) (w : World) :
    ((Clock.now >>= k).run pending).run w = ((k (w.readings 0)).run pending).run (w.later 1) :=
  rfl

/-- Behind a rejected document the next draft is read, if there is one. -/
theorem draftRounds_rejected (hr : r.state.canMoveTo .validating = true)
    (hf : checkCandidate d a = .error f) (remaining corrections : Nat) (path : String)
    (pending : List String) :
    (draftRounds a h (remaining + 1) corrections r d (path :: pending)).run w =
      match answerOn (w.later 2) (readDraft path) with
      | .error e =>
        ((⟨.error (.source e), r.rejected (w.readings 0) (w.readings 1) f, h⟩, pending), w.later 2)
      | .ok d =>
        (draftRounds a h remaining (corrections + 1) (r.rejected (w.readings 0) (w.readings 1) f) d
          pending).run (w.later 2) := by
  unfold draftRounds
  rw [Refinement.validateRounds_rejected draftSource hr hf, run_now_bind, run_now_bind,
    World.later_later, StateT.run_bind]
  refine (run_bind_of_run (run_nextDraft path pending (w.later 2)) _).trans ?_
  cases answerOn (w.later 2) (readDraft path) <;> rfl

/-- The round of an accepted document is the last one. -/
theorem exists_rounds_accepted (h : History) (hr : r.state.canMoveTo .validating = true)
    (hd : w.files.Reads path Document.ofText d) (hv : checkCandidate d a = .ok v)
    (remaining corrections : Nat) (pending : List String) :
    ∃ result rest n, (draftRounds a h remaining corrections r d pending).run w =
      ((result, rest), w.later n) ∧
      Ends w.readings h (FirstAccepted w.files a remaining (path :: pending)) result := by
  have haccepted : AcceptedAt w.files a path v := (checkCandidate_eq_ok_iff hd).1 hv
  unfold draftRounds
  rw [Refinement.validateRounds_accepted draftSource hr hv]
  simp only [run_now_bind, World.later_later]
  exact ⟨_, _, 4, rfl, .accepted (.first haccepted) rfl rfl⟩

/-- From a document that was read on, a run ends with the first accepted draft. The induction is on
the corrections that remain, since each rejected draft costs one. -/
theorem exists_rounds (a : AllowedColumns) (h : History)
    (hr : r.state.canMoveTo .validating = true) (hd : w.files.Reads path Document.ofText d)
    (remaining corrections : Nat) (pending : List String) :
    ∃ result rest n, (draftRounds a h remaining corrections r d pending).run w =
      ((result, rest), w.later n) ∧
      Ends w.readings h (FirstAccepted w.files a remaining (path :: pending)) result := by
  induction remaining generalizing corrections r d path pending w with
  | zero =>
    cases hcheck : checkCandidate d a with
    | ok v => exact exists_rounds_accepted h hr hd hcheck _ corrections pending
    | error f =>
      unfold draftRounds
      rw [Refinement.validateRounds_exhausted draftSource hr hcheck]
      simp only [run_now_bind, World.later_later]
      have hrejected : RejectedAt w.files a path := rejectedAt_of_check hd hcheck
      exact ⟨_, _, 3, rfl, .failed (fun _ _ => FirstAccepted.not_of_rejected hrejected) rfl⟩
  | succ remaining ih =>
    cases hcheck : checkCandidate d a with
    | ok v => exact exists_rounds_accepted h hr hd hcheck _ corrections pending
    | error f =>
      have hrejected : RejectedAt w.files a path := rejectedAt_of_check hd hcheck
      cases pending with
      | nil =>
        unfold draftRounds
        rw [Refinement.validateRounds_rejected draftSource hr hcheck, run_now_bind, run_now_bind,
          World.later_later]
        refine ⟨_, _, 2, rfl, .failed (fun i v hv => ?_) rfl⟩
        obtain ⟨j, hj⟩ := FirstAccepted.of_rejected hrejected hv
        cases hj
      | cons next pending =>
        rw [draftRounds_rejected hr hcheck]
        cases hread : answerOn (w.later 2) (readDraft next) with
        | error e =>
          refine ⟨_, _, 2, rfl, .failed (fun i v hv => ?_) rfl⟩
          obtain ⟨j, hj⟩ := FirstAccepted.of_rejected hrejected hv
          exact FirstAccepted.not_of_unread hread hj
        | ok d' =>
          obtain ⟨result, rest, n, hrun, hends⟩ :=
            ih (w := w.later 2) (r := r.rejected (w.readings 0) (w.readings 1) f) rfl
              ((parses_readDraft _).answer_iff.1 hread) (corrections + 1) pending
          rw [World.later_later] at hrun
          exact ⟨result, rest, 2 + n, hrun, hends.of_rejected hrejected⟩

end

/-- The first draft is the proposal. -/
theorem run_start (w : World) (id : SessionId) (begun : Timestamp) (a : AllowedColumns)
    (maxRetries : Nat) (h : History) (path : String) (pending : List String) :
    (((Refinement.start id begun maxRetries).run
      (draftSource : CandidateSource (StateT (List String) (StateM World))) (.ofColumns a)
      h).run (path :: pending)).run w =
      match answerOn w (readDraft path) with
      | .error e => ((⟨.error (.source e), .start id begun maxRetries, h⟩, pending), w)
      | .ok d => (draftRounds a h maxRetries 0 (.start id begun maxRetries) d pending).run w := by
  have hdrafting : (Refinement.start id begun maxRetries).state = .drafting := rfl
  unfold Refinement.run
  rw [if_pos hdrafting, StateT.run_bind]
  refine (run_bind_of_run (run_nextDraft path pending w) _).trans ?_
  cases answerOn w (readDraft path) <;> rfl

/-- **A refinement ends with the first accepted draft**, or fails because there is none within its
budget of corrections. No file changes; the first reading of the clock is when it begins. -/
theorem refineDrafts_spec (w : World) (id : SessionId) (drafts : List String) (a : AllowedColumns)
    (maxRetries : Nat) (h : History) :
    ∃ result n,
      (refineDrafts id drafts a maxRetries h : StateM World _).run w = (result, w.later n) ∧
      Ends (w.readings.later 1) h (FirstAccepted w.files a maxRetries drafts) result := by
  cases drafts with
  | nil => exact ⟨_, 1, rfl, .failed nofun rfl⟩
  | cons path pending =>
    have hbegin : (refineDrafts id (path :: pending) a maxRetries h : StateM World _).run w =
        ((((Refinement.start id (w.readings 0) maxRetries).run draftSource (.ofColumns a) h).run
          (path :: pending) : StateM World _) >>= fun p => pure p.1).run (w.later 1) := rfl
    have hrun := run_start (w.later 1) id (w.readings 0) a maxRetries h path pending
    rw [hbegin]
    cases hread : answerOn (w.later 1) (readDraft path) with
    | error e =>
      rw [hread] at hrun
      exact ⟨_, 1, run_bind_of_run hrun _,
        .failed (fun _ _ => FirstAccepted.not_of_unread (w := w.later 1) hread) rfl⟩
    | ok d =>
      obtain ⟨result, rest, n, hrounds, hends⟩ := exists_rounds (w := w.later 1)
        (r := .start id (w.readings 0) maxRetries) a h rfl ((parses_readDraft _).answer_iff.1 hread)
        maxRetries 0 pending
      rw [World.later_later] at hrounds
      rw [hread] at hrun
      exact ⟨result, 1 + n, run_bind_of_run (hrun.trans hrounds) _, hends⟩

end GraphIngest.CommandLine
