import GraphIngest.Proofs.Model.Document
import GraphIngest.Refinement.Session

/-!
# The first run of a refinement

A candidate source that answers by a sequence of documents and failures, and that keeps what it was
asked, makes a run a function of the sequence.

* `validateRounds_accepted`, `validateRounds_exhausted`, `validateRounds_rejected` — what one round
  does; no move between states is refused;
* `firstRun_reaches` — after any number of rejected answers within the budget, the run stands at the
  next one, having asked for exactly these corrections;
* `firstRun_spec` — the run ends with the first answer that is a failure or is accepted, or with the
  last answer of the budget.
-/

namespace GraphIngest.Refinement

/-! ## Sources that answer by a sequence -/

/-- What a candidate source is asked. -/
inductive Question where
  | propose (request : DraftRequest)
  | correct (candidate : Document) (feedback : Feedback)
  deriving DecidableEq, Repr

/-- What a source was asked so far, and what the clock is going to show. -/
structure Conversation where
  asked : List Question
  readings : Readings

instance : Clock (StateM Conversation) where
  now c := (c.readings 0, { c with readings := c.readings.later 1 })

/-- The next answer of a sequence; the question is kept. -/
def answer (answers : Nat → Except SourceFailure Document) (q : Question) :
    StateM Conversation (Except SourceFailure Document) :=
  fun c => (answers c.asked.length, { c with asked := c.asked ++ [q] })

/-- The source that answers by a sequence, whatever it is asked. -/
def scripted (answers : Nat → Except SourceFailure Document) :
    CandidateSource (StateM Conversation) where
  propose request := answer answers (.propose request)
  correct candidate feedback := answer answers (.correct candidate feedback)

/-- What a run comes to, and what was asked in the end. -/
def transcript (x : StateM Conversation RunResult) (c : Conversation) : RunResult × List Question :=
  ((x.run c).1, (x.run c).2.asked)

/-- The first run of a refinement with a sequence of answers, and what was asked. The clock shows
`begun` when the refinement is made, and the readings from then on. -/
def firstRun (answers : Nat → Except SourceFailure Document) (id : SessionId) (begun : Timestamp)
    (readings : Readings) (maxRetries : Nat) (request : DraftRequest) (h : History) :
    RunResult × List Question :=
  transcript ((Refinement.start id begun maxRetries).run (scripted answers) request h)
    ⟨[], readings⟩

/-- A question is answered by its number. -/
theorem transcript_answer_bind (answers : Nat → Except SourceFailure Document) (q : Question)
    (k : Except SourceFailure Document → StateM Conversation RunResult) (asked : List Question)
    (readings : Readings) :
    transcript (answer answers q >>= k) ⟨asked, readings⟩ =
      transcript (k (answers asked.length)) ⟨asked ++ [q], readings⟩ :=
  rfl

/-- The clock shows its next reading. -/
theorem transcript_now_bind (k : Timestamp → StateM Conversation RunResult)
    (asked : List Question) (readings : Readings) :
    transcript (Clock.now >>= k) ⟨asked, readings⟩ =
      transcript (k (readings 0)) ⟨asked, readings.later 1⟩ :=
  rfl

/-- The first answers are documents that are rejected with this feedback. -/
def Rejected (a : AllowedColumns) (answers : Nat → Except SourceFailure Document)
    (d : Nat → Document) (f : Nat → Feedback) (n : Nat) : Prop :=
  ∀ j < n, answers j = .ok (d j) ∧ checkCandidate (d j) a = .error (f j)

/-- The proposal, and the corrections of the first documents after their feedback. -/
def questions (request : DraftRequest) (d : Nat → Document) (f : Nat → Feedback) (n : Nat) :
    List Question :=
  .propose request :: (List.range n).map fun j => .correct (d j) (f j)

theorem length_questions (request : DraftRequest) (d : Nat → Document) (f : Nat → Feedback)
    (n : Nat) : (questions request d f n).length = n + 1 := by
  simp [questions]

theorem questions_succ (request : DraftRequest) (d : Nat → Document) (f : Nat → Feedback)
    (n : Nat) :
    questions request d f (n + 1) = questions request d f n ++ [.correct (d n) (f n)] := by
  simp [questions, List.range_succ]

theorem checkCandidate_eq_ok {d : Document} {a : AllowedColumns} {v : AcceptedModel}
    (h : checkCandidate d a = .ok v) : v.model.document = d ∧ v.columns = a := by
  unfold checkCandidate at h
  split at h
  · cases h
  · rename_i m hm
    split at h
    · cases h
    · rename_i v' hv
      cases h
      obtain ⟨hmodel, hcolumns⟩ := accept_eq_ok_iff.1 hv
      exact ⟨hmodel ▸ Document.build_eq_ok_iff.1 hm, hcolumns⟩

/-! ## One round -/

/-- The refinement behind a round whose document is accepted: when it was validated, when it was
accepted, and when that was completed. -/
def accepted (r : Refinement) (validated settled completed : Timestamp) (version : Nat) :
    Refinement :=
  ((r.record validated .validating 0).record settled .accepted 0).complete completed (some version)

/-- The refinement behind a round whose document is to be corrected. -/
def rejected (r : Refinement) (validated returned : Timestamp) (f : Feedback) : Refinement :=
  (r.record validated .validating 0).record returned .correcting f.length

/-- The refinement behind a round that uses up the budget. -/
def exhausted (r : Refinement) (validated settled completed : Timestamp) (f : Feedback) :
    Refinement :=
  ((r.record validated .validating 0).record settled .exhausted f.length).complete completed none

section

variable {m : Type → Type} [Monad m] [Clock m] {r : Refinement}

theorem moveTo_eq {target : RefineState} (hr : r.state.canMoveTo target = true) (issues : Nat) :
    (r.moveTo target issues : m _) = do return .ok (r.record (← Clock.now) target issues) :=
  if_pos hr

variable [LawfulMonad m] (source : CandidateSource m) {a : AllowedColumns} {h : History}
  {remaining corrections : Nat} {candidate : Document}

theorem validateRounds_accepted (hr : r.state.canMoveTo .validating = true) {v : AcceptedModel}
    (hv : checkCandidate candidate a = .ok v) :
    validateRounds source a h remaining corrections r candidate = (do
      let validated ← Clock.now
      let settled ← Clock.now
      let appended ← Clock.now
      let completed ← Clock.now
      return ⟨.ok ⟨r.log.id, h.length + 1, corrections⟩,
        r.accepted validated settled completed (h.length + 1), h.append appended v⟩) := by
  have hlength (now : Timestamp) : (h.append now v).length = h.length + 1 := by
    simp [History.append, History.length]
  have hsettle (validated : Timestamp) :
      (r.record validated .validating 0).state.canMoveTo .accepted = true := rfl
  unfold validateRounds acceptWith
  simp only [moveTo_eq hr, moveTo_eq (hsettle _), hv, hlength, bind_assoc, pure_bind]
  rfl

theorem validateRounds_exhausted (hr : r.state.canMoveTo .validating = true) {f : Feedback}
    (hf : checkCandidate candidate a = .error f) :
    validateRounds source a h 0 corrections r candidate = (do
      let validated ← Clock.now
      let settled ← Clock.now
      let completed ← Clock.now
      return ⟨.error (.retriesExhausted (corrections + 1) f),
        r.exhausted validated settled completed f, h⟩) := by
  have hsettle (validated : Timestamp) :
      (r.record validated .validating 0).state.canMoveTo .exhausted = true := rfl
  unfold validateRounds exhaust
  simp only [moveTo_eq hr, moveTo_eq (hsettle _), hf, bind_assoc, pure_bind]
  rfl

theorem validateRounds_rejected (hr : r.state.canMoveTo .validating = true) {f : Feedback}
    (hf : checkCandidate candidate a = .error f) :
    validateRounds source a h (remaining + 1) corrections r candidate = (do
      let validated ← Clock.now
      let returned ← Clock.now
      match ← source.correct candidate f with
      | .error e => return ⟨.error (.source e), r.rejected validated returned f, h⟩
      | .ok next =>
        validateRounds source a h remaining (corrections + 1) (r.rejected validated returned f)
          next) := by
  have hreturn (validated : Timestamp) :
      (r.record validated .validating 0).state.canMoveTo .correcting = true := rfl
  conv => lhs; unfold validateRounds
  simp only [moveTo_eq hr, moveTo_eq (hreturn _), hf, bind_assoc, pure_bind]
  rfl

end

/-! ## The rounds of a run -/

section

variable {answers : Nat → Except SourceFailure Document} {id : SessionId} {begun : Timestamp}
  {readings : Readings} {maxRetries : Nat} {request : DraftRequest} {h : History}
  {d : Nat → Document} {f : Nat → Feedback}

theorem Rejected.mono {a : AllowedColumns} {n k : Nat} (hn : Rejected a answers d f n)
    (hk : k ≤ n) : Rejected a answers d f k :=
  fun j hj => hn j (by omega)

/-- Either all of the first answers are rejected, or one of them is the first that is not. -/
theorem rejected_or_settled (a : AllowedColumns) (answers : Nat → Except SourceFailure Document)
    (n : Nat) :
    (∃ d f, Rejected a answers d f n) ∨
      ∃ i < n, (∃ d f, Rejected a answers d f i) ∧
        ((∃ e, answers i = .error e) ∨
          ∃ candidate v, answers i = .ok candidate ∧ checkCandidate candidate a = .ok v) := by
  induction n with
  | zero => exact .inl ⟨fun _ => default, fun _ => .structural [], fun j hj => by omega⟩
  | succ n ih =>
    rcases ih with ⟨d, f, hrej⟩ | ⟨i, hi, hsettled⟩
    · cases hanswer : answers n with
      | error e => exact .inr ⟨n, by omega, ⟨d, f, hrej⟩, .inl ⟨e, hanswer⟩⟩
      | ok candidate =>
        cases hcheck : checkCandidate candidate a with
        | ok v => exact .inr ⟨n, by omega, ⟨d, f, hrej⟩, .inr ⟨candidate, v, hanswer, hcheck⟩⟩
        | error feedback =>
          refine .inl ⟨fun j => if j = n then candidate else d j,
            fun j => if j = n then feedback else f j, fun j hj => ?_⟩
          by_cases hjn : j = n
          · simp [hjn, hanswer, hcheck]
          · simpa [hjn] using hrej j (by omega)
    · exact .inr ⟨i, by omega, hsettled⟩

theorem firstRun_eq :
    firstRun answers id begun readings maxRetries request h =
      transcript (match answers 0 with
        | .error e => return ⟨.error (.source e), .start id begun maxRetries, h⟩
        | .ok candidate => validateRounds (scripted answers) request.columns h maxRetries 0
            (.start id begun maxRetries) candidate) ⟨questions request d f 0, readings⟩ :=
  rfl

/-- **A rejected answer leads to the next question**, behind two readings of the clock. -/
theorem transcript_rejected {n remaining corrections : Nat} {r : Refinement}
    (hr : r.state.canMoveTo .validating = true)
    (hf : checkCandidate (d n) request.columns = .error (f n)) (rs : Readings) :
    transcript (validateRounds (scripted answers) request.columns h (remaining + 1) corrections r
        (d n)) ⟨questions request d f n, rs⟩ =
      transcript (match answers (n + 1) with
        | .error e => return ⟨.error (.source e), r.rejected (rs 0) (rs 1) (f n), h⟩
        | .ok next => validateRounds (scripted answers) request.columns h remaining
            (corrections + 1) (r.rejected (rs 0) (rs 1) (f n)) next)
        ⟨questions request d f (n + 1), rs.later 2⟩ := by
  rw [validateRounds_rejected (scripted answers) hr hf, transcript_now_bind, transcript_now_bind,
    questions_succ]
  unfold scripted
  rw [transcript_answer_bind, length_questions, Readings.later_later]
  rfl

/-- **The run comes to the answer after the rejected ones**, within the budget. -/
theorem firstRun_reaches (id : SessionId) (begun : Timestamp) (readings : Readings) (h : History)
    {n : Nat} (hn : n ≤ maxRetries) (hrej : Rejected request.columns answers d f n)
    {candidate : Document} (hc : answers n = .ok candidate) :
    ∃ r, r.log.id = id ∧ r.state.canMoveTo .validating = true ∧
      firstRun answers id begun readings maxRetries request h =
        transcript (validateRounds (scripted answers) request.columns h (maxRetries - n) n r
          candidate) ⟨questions request d f n, readings.later (2 * n)⟩ := by
  induction n generalizing candidate with
  | zero =>
    refine ⟨.start id begun maxRetries, rfl, rfl, ?_⟩
    rw [firstRun_eq, hc, Nat.mul_zero, Readings.later_zero]
    rfl
  | succ n ih =>
    obtain ⟨hd, hf⟩ := hrej n (by omega)
    obtain ⟨r, hid, hr, hrun⟩ := ih (by omega) (hrej.mono (Nat.le_succ n)) hd
    have hremaining : maxRetries - n = maxRetries - (n + 1) + 1 := by omega
    -- Within the budget a rejected answer costs one retry.
    refine ⟨r.rejected (readings.later (2 * n) 0) (readings.later (2 * n) 1) (f n), hid, rfl, ?_⟩
    rw [hrun, hremaining, transcript_rejected hr hf, hc, Readings.later_later]
    rfl

/-- An accepted document ends the run; it is appended when the clock was read twice for each of the
documents before it, and twice for its own validation. -/
theorem firstRun_accepted (id : SessionId) (begun : Timestamp) (readings : Readings) (h : History)
    {n : Nat} (hn : n ≤ maxRetries) (hrej : Rejected request.columns answers d f n)
    {candidate : Document} (hc : answers n = .ok candidate) {v : AcceptedModel}
    (hv : checkCandidate candidate request.columns = .ok v) :
    ∃ r, firstRun answers id begun readings maxRetries request h =
      (⟨.ok ⟨id, h.length + 1, n⟩, r, h.append (readings (2 * n + 2)) v⟩,
        questions request d f n) := by
  obtain ⟨r, rfl, hr, hrun⟩ := firstRun_reaches id begun readings h hn hrej hc
  rw [hrun, validateRounds_accepted (scripted answers) hr hv]
  exact ⟨_, rfl⟩

/-- The last document of the budget ends the run when it is rejected too. -/
theorem firstRun_exhausted (id : SessionId) (begun : Timestamp) (readings : Readings) (h : History)
    (hrej : Rejected request.columns answers d f (maxRetries + 1)) :
    ∃ r, firstRun answers id begun readings maxRetries request h =
      (⟨.error (.retriesExhausted (maxRetries + 1) (f maxRetries)), r, h⟩,
        questions request d f maxRetries) := by
  obtain ⟨hd, hf⟩ := hrej maxRetries (by omega)
  obtain ⟨r, -, hr, hrun⟩ :=
    firstRun_reaches id begun readings h (Nat.le_refl _) (hrej.mono (Nat.le_succ _)) hd
  rw [hrun, Nat.sub_self, validateRounds_exhausted (scripted answers) hr hf]
  exact ⟨_, rfl⟩

/-- A failure of the source ends the run. -/
theorem firstRun_failed (id : SessionId) (begun : Timestamp) (readings : Readings) (h : History)
    {n : Nat} (hn : n ≤ maxRetries) (hrej : Rejected request.columns answers d f n)
    {e : SourceFailure} (he : answers n = .error e) :
    ∃ r, firstRun answers id begun readings maxRetries request h =
      (⟨.error (.source e), r, h⟩, questions request d f n) := by
  cases n with
  | zero =>
    rw [firstRun_eq, he]
    exact ⟨_, rfl⟩
  | succ n =>
    obtain ⟨hd, hf⟩ := hrej n (by omega)
    obtain ⟨r, -, hr, hrun⟩ :=
      firstRun_reaches id begun readings h (Nat.le_of_succ_le hn) (hrej.mono (Nat.le_succ n)) hd
    have hremaining : maxRetries - n = maxRetries - (n + 1) + 1 := by omega
    rw [hrun, hremaining, transcript_rejected hr hf, he]
    exact ⟨_, rfl⟩

/-- **The first run of a refinement.** Let the answers before some index within the budget be
documents that are rejected. If the next one is accepted, it becomes the next version, after as many
corrections; if it is a failure, or the rejected ones use up the budget, the history stays as it is.
The source is asked for the proposal and for one correction of each of the documents before. Every
sequence of answers is in one of these cases, whatever the clock shows. -/
theorem firstRun_spec (answers : Nat → Except SourceFailure Document) (id : SessionId)
    (begun : Timestamp) (readings : Readings) (maxRetries : Nat) (request : DraftRequest)
    (h : History) :
    (∀ d f, ∀ i ≤ maxRetries, Rejected request.columns answers d f i → ∀ candidate v,
      answers i = .ok candidate → checkCandidate candidate request.columns = .ok v →
        ∃ r, firstRun answers id begun readings maxRetries request h =
          (⟨.ok ⟨id, h.length + 1, i⟩, r,
            ⟨h.snapshots ++ [⟨h.length + 1, readings (2 * i + 2), v.model.fingerprint,
              request.columns, v.model⟩]⟩⟩,
            questions request d f i) ∧ candidate.build = .ok v.model) ∧
    (∀ d f, ∀ i ≤ maxRetries, Rejected request.columns answers d f i → ∀ e,
      answers i = .error e →
        ∃ r, firstRun answers id begun readings maxRetries request h =
          (⟨.error (.source e), r, h⟩, questions request d f i)) ∧
    (∀ d f, Rejected request.columns answers d f (maxRetries + 1) →
      ∃ r, firstRun answers id begun readings maxRetries request h =
        (⟨.error (.retriesExhausted (maxRetries + 1) (f maxRetries)), r, h⟩,
          questions request d f maxRetries)) ∧
    ((∃ d f, Rejected request.columns answers d f (maxRetries + 1)) ∨
      ∃ i ≤ maxRetries, (∃ d f, Rejected request.columns answers d f i) ∧
        ((∃ e, answers i = .error e) ∨ ∃ candidate v, answers i = .ok candidate ∧
          checkCandidate candidate request.columns = .ok v)) := by
  refine ⟨fun d f i hi hrej candidate v hc hv => ?_,
    fun d f i hi hrej e he => firstRun_failed id begun readings h hi hrej he,
    fun d f hrej => firstRun_exhausted id begun readings h hrej, ?_⟩
  · obtain ⟨hmodel, hcolumns⟩ := checkCandidate_eq_ok hv
    obtain ⟨r, hrun⟩ := firstRun_accepted id begun readings h hi hrej hc hv
    refine ⟨r, ?_, Document.build_eq_ok_iff.2 hmodel⟩
    rw [hrun, ← hcolumns]
    rfl
  · rcases rejected_or_settled request.columns answers (maxRetries + 1) with hall | ⟨i, hi, hi'⟩
    · exact .inl hall
    · exact .inr ⟨i, by omega, hi'⟩

end

end GraphIngest.Refinement
