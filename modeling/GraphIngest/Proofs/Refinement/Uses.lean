import GraphIngest.Proofs.Basic
import GraphIngest.Proofs.Refinement.FirstRun

/-!
# Using a refinement again and again

A refinement may be run any number of times, with other sources, requests and histories. As long as
no document is proposed it stays as it was; after the first proposal every later use is refused.

* `rounds_validateRounds` — what the rounds behind a proposal do, as a relation that says which
  corrections were asked for, whatever the source is;
* `turns_split` — the uses of a refinement are failed proposals, then at most one run with a
  proposal, then refusals;
* `decides_once` — at most one use decides, and at most one version is appended by all of them.
-/

namespace GraphIngest.Refinement

/-! ## Recorded uses -/

/-- A question to a candidate source with its answer. -/
structure Exchange where
  question : Question
  answer : Except SourceFailure Document

variable {σ : Type}

/-- The source with a record of what it is asked and what it answers. -/
def recorded (source : CandidateSource (StateM σ)) :
    CandidateSource (StateM (σ × List Exchange)) where
  propose request := fun s => do
    let (answer, next) ← source.propose request s.1
    return (answer, next, s.2 ++ [⟨.propose request, answer⟩])
  correct candidate feedback := fun s => do
    let (answer, next) ← source.correct candidate feedback s.1
    return (answer, next, s.2 ++ [⟨.correct candidate feedback, answer⟩])

/-- Reading the clock is not recorded. -/
instance [Clock (StateM σ)] : Clock (StateM (σ × List Exchange)) where
  now := fun s => do
    let (now, next) ← (Clock.now : StateM σ Timestamp) s.1
    return (now, next, s.2)

/-- One use of a refinement: the source that is asked, what is asked for, and the history that it is
given. Sources and the clock share what they remember. -/
structure Use (σ : Type) where
  source : CandidateSource (StateM σ)
  request : DraftRequest
  history : History

/-- A use with what came out of it and what the source was asked. -/
structure Turn (σ : Type) where
  use : Use σ
  result : RunResult
  asked : List Exchange

section

variable [Clock (StateM σ)]

/-- One use with what its source remembers, and what the source remembers behind it. -/
def turn (r : Refinement) (s : σ) (u : Use σ) : Turn σ × σ :=
  let ((result, next, asked) : RunResult × σ × List Exchange) :=
    (r.run (recorded u.source) u.request u.history).run (s, [])
  (⟨u, result, asked⟩, next)

/-- The uses of one refinement, each with what the one before left behind. -/
def turns : Refinement → σ → List (Use σ) → List (Turn σ)
  | _, _, [] => []
  | r, s, u :: us =>
    let (t, next) := turn r s u
    t :: turns t.result.refinement next us

/-- What comes out of the uses of a refinement when nothing is recorded. -/
def results : Refinement → σ → List (Use σ) → List RunResult
  | _, _, [] => []
  | r, s, u :: us =>
    let ((result, next) : RunResult × σ) := (r.run u.source u.request u.history).run s
    result :: results result.refinement next us

end

/-! ## The rounds behind a proposal -/

/-- What the rounds behind a proposal may do for the columns of a request and with a history,
whatever the clock shows: from the corrections that remain, those that were made, the refinement and
the document to the corrections that are asked for and the outcome. -/
inductive Rounds (a : AllowedColumns) (h : History) :
    Nat → Nat → Refinement → Document → List Exchange → RunResult → Prop where
  | accepted {remaining corrections : Nat} {r : Refinement} {d : Document} {v : AcceptedModel}
      {validated settled appended completed : Timestamp} (hv : checkCandidate d a = .ok v) :
      Rounds a h remaining corrections r d []
        ⟨.ok ⟨r.log.id, h.length + 1, corrections⟩,
          r.accepted validated settled completed (h.length + 1), h.append appended v⟩
  | exhausted {corrections : Nat} {r : Refinement} {d : Document} {f : Feedback}
      {validated settled completed : Timestamp} (hf : checkCandidate d a = .error f) :
      Rounds a h 0 corrections r d []
        ⟨.error (.retriesExhausted (corrections + 1) f),
          r.exhausted validated settled completed f, h⟩
  | failed {remaining corrections : Nat} {r : Refinement} {d : Document} {f : Feedback}
      {e : SourceFailure} {validated returned : Timestamp} (hf : checkCandidate d a = .error f) :
      Rounds a h (remaining + 1) corrections r d [⟨.correct d f, .error e⟩]
        ⟨.error (.source e), r.rejected validated returned f, h⟩
  | corrected {remaining corrections : Nat} {r : Refinement} {d next : Document} {f : Feedback}
      {validated returned : Timestamp} {asked : List Exchange} {result : RunResult}
      (hf : checkCandidate d a = .error f)
      (hrest : Rounds a h remaining (corrections + 1) (r.rejected validated returned f) next asked
        result) :
      Rounds a h (remaining + 1) corrections r d (⟨.correct d f, .ok next⟩ :: asked) result

section

variable {source : CandidateSource (StateM σ)}

theorem run_recorded_propose {request : DraftRequest} {s next : σ}
    {answer : Except SourceFailure Document} (hs : (source.propose request).run s = (answer, next))
    (before : List Exchange) :
    ((recorded source).propose request).run (s, before) =
      (answer, next, before ++ [⟨.propose request, answer⟩]) := by
  change ((source.propose request).run s >>= fun p =>
    (return (p.1, p.2, before ++ [⟨.propose request, p.1⟩]) : Id _)) = _
  rw [hs]
  rfl

theorem run_recorded_correct {d : Document} {f : Feedback} {s next : σ}
    {answer : Except SourceFailure Document} (hs : (source.correct d f).run s = (answer, next))
    (before : List Exchange) :
    ((recorded source).correct d f).run (s, before) =
      (answer, next, before ++ [⟨.correct d f, answer⟩]) := by
  change ((source.correct d f).run s >>= fun p =>
    (return (p.1, p.2, before ++ [⟨.correct d f, p.1⟩]) : Id _)) = _
  rw [hs]
  rfl

variable [Clock (StateM σ)]

/-- What comes behind a reading of the clock runs on what is left, recorded or not. -/
theorem exists_reading {α : Type} (s : σ) :
    ∃ now next, (∀ k : Timestamp → StateM σ α, (Clock.now >>= k).run s = (k now).run next) ∧
      ∀ (k : Timestamp → StateM (σ × List Exchange) α) (before : List Exchange),
        (Clock.now >>= k).run (s, before) = (k now).run (next, before) :=
  ⟨_, _, fun _ => rfl, fun _ _ => rfl⟩

/-- The rounds of a recorded source do what the relation says, and what they do without a record. -/
theorem rounds_validateRounds (source : CandidateSource (StateM σ)) (a : AllowedColumns)
    (h : History) (remaining corrections : Nat) {r : Refinement}
    (hr : r.state.canMoveTo .validating = true) (d : Document) (s : σ) (before : List Exchange) :
    ∃ result next asked,
      (validateRounds (recorded source) a h remaining corrections r d).run (s, before) =
        (result, next, before ++ asked) ∧
      (validateRounds source a h remaining corrections r d).run s = (result, next) ∧
      Rounds a h remaining corrections r d asked result := by
  induction remaining generalizing corrections r d s before with
  | zero =>
    cases hcheck : checkCandidate d a with
    | ok v =>
      rw [validateRounds_accepted _ hr hcheck, validateRounds_accepted _ hr hcheck]
      exact ⟨_, _, [], by rw [List.append_nil]; rfl, rfl, .accepted hcheck⟩
    | error f =>
      rw [validateRounds_exhausted _ hr hcheck, validateRounds_exhausted _ hr hcheck]
      exact ⟨_, _, [], by rw [List.append_nil]; rfl, rfl, .exhausted hcheck⟩
  | succ remaining ih =>
    cases hcheck : checkCandidate d a with
    | ok v =>
      rw [validateRounds_accepted _ hr hcheck, validateRounds_accepted _ hr hcheck]
      exact ⟨_, _, [], by rw [List.append_nil]; rfl, rfl, .accepted hcheck⟩
    | error f =>
      obtain ⟨validated, s₁, hvalidated, hvalidated'⟩ := exists_reading s
      obtain ⟨returned, s₂, hreturned, hreturned'⟩ := exists_reading s₁
      obtain ⟨answer, next, hs⟩ : ∃ answer next, (source.correct d f).run s₂ = (answer, next) :=
        ⟨_, _, rfl⟩
      rw [validateRounds_rejected _ hr hcheck, validateRounds_rejected _ hr hcheck, hvalidated,
        hvalidated', hreturned, hreturned', run_bind_of_run (run_recorded_correct hs before),
        run_bind_of_run hs]
      cases answer with
      | error e => exact ⟨_, next, [⟨.correct d f, .error e⟩], rfl, rfl, .failed hcheck⟩
      | ok document =>
        -- The rest of the rounds begins with the corrected document and one correction less.
        obtain ⟨result, last, asked, hrecorded, hplain, hrounds⟩ :=
          ih (corrections + 1) (r := r.rejected validated returned f) rfl document next
            (before ++ [⟨.correct d f, .ok document⟩])
        refine ⟨result, last, ⟨.correct d f, .ok document⟩ :: asked, ?_, hplain,
          .corrected hcheck hrounds⟩
        rw [hrecorded, List.append_assoc]
        rfl

end

namespace Rounds

variable {a : AllowedColumns} {h : History} {remaining corrections : Nat}
  {r : Refinement} {d : Document} {asked : List Exchange} {result : RunResult}

/-- Behind a proposal a refinement never drafts again. -/
theorem state_ne_drafting (hrounds : Rounds a h remaining corrections r d asked result) :
    result.refinement.state ≠ .drafting := by
  induction hrounds with
  | accepted | exhausted | failed => exact nofun
  | corrected _ _ ih => exact ih

/-- One version is appended when a document is accepted, and none otherwise. -/
theorem history (hrounds : Rounds a h remaining corrections r d asked result) :
    (∃ accepted now v, result.outcome = .ok accepted ∧ accepted.version = h.length + 1 ∧
      result.history = h.append now v) ∨
    ∃ e, result.outcome = .error e ∧ result.history = h := by
  induction hrounds with
  | accepted => exact .inl ⟨_, _, _, rfl, rfl, rfl⟩
  | exhausted | failed => exact .inr ⟨_, rfl, rfl⟩
  | corrected _ _ ih => exact ih

end Rounds

/-! ## The kinds of uses -/

namespace Turn

/-- The proposal failed, and nothing changed. -/
def Unproposed (r : Refinement) (t : Turn σ) : Prop :=
  ∃ e, t.asked = [⟨.propose t.use.request, .error e⟩] ∧
    t.result = ⟨.error (.source e), r, t.use.history⟩

/-- A document was proposed, and the rounds behind it were run. -/
def Proposed (r : Refinement) (t : Turn σ) : Prop :=
  ∃ d corrections, t.asked = ⟨.propose t.use.request, .ok d⟩ :: corrections ∧
    Rounds t.use.request.columns t.use.history r.maxRetries 0 r d corrections t.result

/-- The use was refused: nothing was asked, and nothing changed. -/
def Refused (r : Refinement) (t : Turn σ) : Prop :=
  t.asked = [] ∧ t.result = ⟨.error (.invalidTransition r.state .validating), r, t.use.history⟩

/-- A model was accepted, or the budget was used up. -/
def decides (t : Turn σ) : Bool :=
  match t.result.outcome with
  | .ok _ | .error (.retriesExhausted _ _) => true
  | .error _ => false

/-- The versions that a use added to the history it was given. -/
def appended (t : Turn σ) : List Snapshot := t.result.history.snapshots.drop t.use.history.length

/-- The use decided nothing and left its history as it was. -/
structure Idle (t : Turn σ) : Prop where
  undecided : t.decides = false
  history : t.result.history = t.use.history

variable {r : Refinement} {t : Turn σ} {ts : List (Turn σ)}

theorem Unproposed.idle (h : t.Unproposed r) : t.Idle := by
  obtain ⟨e, -, hresult⟩ := h
  exact ⟨by rw [decides, hresult], by rw [hresult]⟩

theorem Refused.idle (h : t.Refused r) : t.Idle :=
  ⟨by rw [decides, h.2], by rw [h.2]⟩

theorem appended_of_history_eq {ss : List Snapshot}
    (h : t.result.history.snapshots = t.use.history.snapshots ++ ss) : t.appended = ss := by
  unfold appended History.length
  rw [h, List.drop_left]

theorem Idle.appended (h : t.Idle) : t.appended = [] :=
  appended_of_history_eq (by rw [h.history, List.append_nil])

theorem filter_decides_of_idle (h : ∀ t ∈ ts, t.Idle) : ts.filter (·.decides) = [] :=
  List.filter_eq_nil_iff.2 fun t ht => by simp [(h t ht).undecided]

theorem flatMap_appended_of_idle (h : ∀ t ∈ ts, t.Idle) : ts.flatMap (·.appended) = [] :=
  List.flatMap_eq_nil_iff.2 fun t ht => (h t ht).appended

section

variable {failed later : List (Turn σ)} (hfailed : ∀ t ∈ failed, t.Idle)
  (hlater : ∀ t ∈ later, t.Idle)

include hfailed hlater

/-- One use among idle ones decides at most once. -/
theorem length_filter_decides_le : ((failed ++ t :: later).filter (·.decides)).length ≤ 1 := by
  rw [List.filter_append, filter_decides_of_idle hfailed, List.nil_append, List.filter_cons,
    filter_decides_of_idle hlater]
  split <;> simp

/-- One use among idle ones appends what all of them do. -/
theorem flatMap_appended_of_idle_around :
    (failed ++ t :: later).flatMap (·.appended) = t.appended := by
  rw [List.flatMap_append, flatMap_appended_of_idle hfailed, List.nil_append, List.flatMap_cons,
    flatMap_appended_of_idle hlater, List.append_nil]

end

theorem Idle.snapshots (h : t.Idle) :
    t.result.history.snapshots = t.use.history.snapshots ++ t.appended := by
  rw [h.appended, List.append_nil, h.history]

/-- A run with a proposal adds at most one version behind those that are there. -/
theorem Proposed.history_eq (h : t.Proposed r) :
    ∃ ss, ss.length ≤ 1 ∧ t.result.history.snapshots = t.use.history.snapshots ++ ss := by
  obtain ⟨d, corrections, -, hrounds⟩ := h
  rcases hrounds.history with ⟨_, now, v, -, -, hhistory⟩ | ⟨e, -, hhistory⟩
  · exact ⟨[t.use.history.nextSnapshot now v], Nat.le_refl 1, by rw [hhistory]; rfl⟩
  · exact ⟨[], Nat.zero_le 1, by rw [hhistory, List.append_nil]⟩

theorem Proposed.snapshots (h : t.Proposed r) :
    t.result.history.snapshots = t.use.history.snapshots ++ t.appended := by
  obtain ⟨ss, -, hss⟩ := h.history_eq
  rw [appended_of_history_eq hss, hss]

theorem Proposed.length_appended_le (h : t.Proposed r) : t.appended.length ≤ 1 := by
  obtain ⟨ss, hlength, hss⟩ := h.history_eq
  rw [appended_of_history_eq hss]
  exact hlength

theorem Proposed.state_ne_drafting (h : t.Proposed r) : t.result.refinement.state ≠ .drafting := by
  obtain ⟨d, corrections, -, hrounds⟩ := h
  exact hrounds.state_ne_drafting

end Turn

section

variable [Clock (StateM σ)] {r : Refinement}

theorem turn_of_not_drafting (hr : r.state ≠ .drafting)
    (s : σ) (u : Use σ) :
    turn r s u =
      (⟨u, ⟨.error (.invalidTransition r.state .validating), r, u.history⟩, []⟩, s) := by
  unfold turn run
  rw [if_neg hr]
  rfl

/-- A refinement that has not begun proposes, and what is recorded is what happens. -/
theorem turn_of_drafting (hr : r.state = .drafting) (s : σ)
    (u : Use σ) :
    ((turn r s u).1.Unproposed r ∨ (turn r s u).1.Proposed r) ∧
    (r.run u.source u.request u.history).run s =
      ((turn r s u).1.result, (turn r s u).2) := by
  obtain ⟨answer, next, hs⟩ :
      ∃ answer next, (u.source.propose u.request).run s = (answer, next) := ⟨_, _, rfl⟩
  unfold turn run
  rw [if_pos hr, if_pos hr, run_bind_of_run (run_recorded_propose hs []), run_bind_of_run hs]
  cases answer with
  | error e => exact ⟨.inl ⟨e, rfl, rfl⟩, rfl⟩
  | ok d =>
    have hmove : r.state.canMoveTo .validating = true := by
      rw [hr]
      rfl
    obtain ⟨result, last, asked, hrecorded, hplain, hrounds⟩ :=
      rounds_validateRounds u.source u.request.columns u.history r.maxRetries 0 hmove d next
        ([] ++ [⟨.propose u.request, .ok d⟩])
    simp only [hrecorded, hplain]
    exact ⟨.inr ⟨d, asked, rfl, hrounds⟩, trivial⟩

/-! ## All uses of a refinement -/

theorem turns_cons (r : Refinement) (s : σ) (u : Use σ)
    (us : List (Use σ)) :
    turns r s (u :: us) =
      (turn r s u).1 ::
        turns (turn r s u).1.result.refinement (turn r s u).2 us := rfl

theorem map_use_turns (r : Refinement) (s : σ)
    (us : List (Use σ)) : (turns r s us).map (·.use) = us := by
  induction us generalizing r s with
  | nil => rfl
  | cons u us ih =>
    rw [turns_cons, List.map_cons, ih]
    rfl

/-- The record changes nothing of what comes out. -/
theorem map_result_turns (r : Refinement) (s : σ)
    (us : List (Use σ)) : (turns r s us).map (·.result) = results r s us := by
  induction us generalizing r s with
  | nil => rfl
  | cons u us ih =>
    have hplain : (r.run u.source u.request u.history).run s =
        ((turn r s u).1.result, (turn r s u).2) := by
      by_cases hr : r.state = .drafting
      · exact (turn_of_drafting hr s u).2
      · rw [turn_of_not_drafting hr]
        unfold run
        rw [if_neg hr]
        rfl
    unfold results
    simp only [hplain]
    rw [turns_cons, List.map_cons, ih]

/-- A refinement that does not draft any more refuses every use. -/
theorem turns_of_not_drafting (hr : r.state ≠ .drafting)
    (s : σ) (us : List (Use σ)) :
    ∀ t ∈ turns r s us, t.Refused r := by
  induction us with
  | nil => exact List.forall_mem_nil _
  | cons u us ih =>
    rw [turns_cons, turn_of_not_drafting hr]
    intro t ht
    rcases List.mem_cons.1 ht with rfl | ht
    · exact ⟨rfl, rfl⟩
    · exact ih t ht

/-- **The uses of a refinement that drafts** are failed proposals, or failed proposals, a run with a
proposal, and refusals. -/
theorem turns_split (hr : r.state = .drafting) (s : σ)
    (us : List (Use σ)) :
    (∀ t ∈ turns r s us, t.Unproposed r) ∨
    ∃ failed first later, turns r s us = failed ++ first :: later ∧
      (∀ t ∈ failed, t.Unproposed r) ∧ first.Proposed r ∧
      ∀ t ∈ later, t.Refused first.result.refinement := by
  induction us generalizing s with
  | nil => exact .inl (List.forall_mem_nil _)
  | cons u us ih =>
    rw [turns_cons]
    obtain ⟨hturn | hturn, -⟩ := turn_of_drafting hr s u
    · -- The refinement is the one before, so the other uses are split alike.
      have hsame : (turn r s u).1.result.refinement = r := by
        obtain ⟨e, -, hresult⟩ := hturn
        rw [hresult]
      rw [hsame]
      rcases ih (turn r s u).2 with hall | ⟨failed, first, later, heq, hfailed, hrest⟩
      · exact .inl (List.forall_mem_cons.2 ⟨hturn, hall⟩)
      · refine .inr ⟨(turn r s u).1 :: failed, first, later, ?_,
          List.forall_mem_cons.2 ⟨hturn, hfailed⟩, hrest⟩
        rw [heq, List.cons_append]
    · exact .inr ⟨[], (turn r s u).1, _, List.nil_append _, List.forall_mem_nil _, hturn,
        turns_of_not_drafting hturn.state_ne_drafting (turn r s u).2 us⟩

/-- **A refinement decides at most once**, in whatever order it is used, with any sources, requests
and histories. As long as no document is proposed, a use fails and leaves the refinement as it was
made, so the next use proposes again. Behind the first proposal it never drafts again, and every
later use is refused. So at most one use accepts a model or uses up the budget, and all of them
append at most one version to the histories they are given. -/
theorem decides_once (s : σ) (id : SessionId) (begun : Timestamp) (maxRetries : Nat)
    (uses : List (Use σ)) :
    let r := Refinement.start id begun maxRetries
    let ts := turns r s uses
    ts.map (·.use) = uses ∧ ts.map (·.result) = results r s uses ∧
    ((∀ t ∈ ts, t.Unproposed r) ∨
      ∃ failed first later, ts = failed ++ first :: later ∧ (∀ t ∈ failed, t.Unproposed r) ∧
        (∃ d, first.asked.head? = some ⟨.propose first.use.request, .ok d⟩) ∧
        first.result.refinement.state ≠ .drafting ∧
        ∀ t ∈ later, t.Refused first.result.refinement) ∧
    (ts.filter (·.decides)).length ≤ 1 ∧
    (∀ t ∈ ts, t.result.history.snapshots = t.use.history.snapshots ++ t.appended) ∧
    (ts.flatMap (·.appended)).length ≤ 1 := by
  intro r ts
  refine ⟨map_use_turns r s uses, map_result_turns r s uses, ?_⟩
  rcases turns_split (r := r) rfl s uses with
    hall | ⟨failed, first, later, hts, hfailed, hfirst, hlater⟩
  · have hidle : ∀ t ∈ ts, t.Idle := fun t ht => (hall t ht).idle
    refine ⟨.inl hall, ?_, fun t ht => (hidle t ht).snapshots, ?_⟩
    · rw [Turn.filter_decides_of_idle hidle]
      exact Nat.zero_le 1
    · rw [Turn.flatMap_appended_of_idle hidle]
      exact Nat.zero_le 1
  · have hsplit : ts = failed ++ first :: later := hts
    have hfailed' : ∀ t ∈ failed, t.Idle := fun t ht => (hfailed t ht).idle
    have hlater' : ∀ t ∈ later, t.Idle := fun t ht => (hlater t ht).idle
    have hproposal : ∃ d, first.asked.head? = some ⟨.propose first.use.request, .ok d⟩ := by
      obtain ⟨d, corrections, hasked, -⟩ := hfirst
      exact ⟨d, by rw [hasked]; rfl⟩
    refine ⟨.inr ⟨failed, first, later, hsplit, hfailed, hproposal, hfirst.state_ne_drafting,
      hlater⟩, ?_, ?_, ?_⟩
    · rw [hsplit]
      exact Turn.length_filter_decides_le hfailed' hlater'
    · rw [hsplit, List.forall_mem_append, List.forall_mem_cons]
      exact ⟨fun t ht => (hfailed' t ht).snapshots, hfirst.snapshots,
        fun t ht => (hlater' t ht).snapshots⟩
    · rw [hsplit, Turn.flatMap_appended_of_idle_around hfailed' hlater']
      exact hfirst.length_appended_le

end

end GraphIngest.Refinement
