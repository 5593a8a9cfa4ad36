import GraphIngest.Proofs.Refinement.Uses

/-!
# The log of a refinement

However often a refinement is used, its log is the path that its state took: every entry goes on
from the one before by a move that is allowed, and keeps how many problems the feedback had that was
handed to a correction or given back at the end.

* `Faithful.clean`, `Faithful.correcting`, `Faithful.exhausting` — what each move keeps;
* `Rounds.faithful`, `Rounds.closed` — what all rounds behind a proposal keep;
* `log_faithful` — the log after any uses of a refinement.
-/

namespace GraphIngest

namespace Refinement

/-! ## Paths -/

/-- The recorded changes lead from one state to the other, each by a move that is allowed. -/
def Path : RefineState → List Transition → RefineState → Prop
  | a, [], b => a = b
  | a, t :: ts, b => t.origin = a ∧ a.canMoveTo t.target = true ∧ Path t.target ts b

theorem Path.concat {a b : RefineState} {ts : List Transition} (h : Path a ts b)
    {target : RefineState} (hmove : b.canMoveTo target = true) (issues : Nat) (now : Timestamp) :
    Path a (ts ++ [⟨b, target, issues, now⟩]) target := by
  induction ts generalizing a with
  | nil =>
    cases h
    exact ⟨rfl, hmove, rfl⟩
  | cons t ts ih =>
    obtain ⟨horigin, ht, hrest⟩ := h
    exact ⟨horigin, ht, ih hrest⟩

/-- The numbers of problems recorded with the moves to a state. -/
def issuesInto (l : RefinementLog) (target : RefineState) : List Nat :=
  (l.transitions.filter (·.target = target)).map (·.issues)

theorem mem_issuesInto {l : RefinementLog} {t : Transition} (ht : t ∈ l.transitions) :
    t.issues ∈ issuesInto l t.target :=
  List.mem_map.2 ⟨t, List.mem_filter.2 ⟨ht, by simp⟩, rfl⟩

theorem issuesInto_record (r : Refinement) (now : Timestamp) (target s : RefineState)
    (issues : Nat) :
    issuesInto (r.record now target issues).log s =
      issuesInto r.log s ++ if target = s then [issues] else [] := by
  unfold issuesInto record
  rw [List.filter_append, List.map_append]
  by_cases h : target = s <;> simp [h]

/-- A move that reports no problem adds none. -/
theorem forall_issuesInto_record {r : Refinement} {s : RefineState}
    (h : ∀ n ∈ issuesInto r.log s, n = 0) (now : Timestamp) (target : RefineState) :
    ∀ n ∈ issuesInto (r.record now target 0).log s, n = 0 := by
  rw [issuesInto_record, List.forall_mem_append]
  refine ⟨h, ?_⟩
  split
  · exact List.forall_mem_singleton.2 rfl
  · exact List.forall_mem_nil _

/-! ## Feedback -/

/-- A rejected document has a problem. -/
theorem length_pos_of_checkCandidate {d : Document} {a : AllowedColumns} {f : Feedback}
    (h : checkCandidate d a = .error f) : 1 ≤ f.length := by
  unfold checkCandidate at h
  split at h
  · rename_i issues hissues
    cases h
    exact List.length_pos_iff.2 (Document.build_eq_error_iff.1 hissues).1
  · rename_i m hm
    split at h
    · rename_i violations hviolations
      cases h
      exact List.length_pos_iff.2 (accept_eq_error_iff.1 hviolations).1
    · cases h

/-- The feedback that a correction is asked for with. -/
def Exchange.feedback? (e : Exchange) : Option Feedback :=
  match e.question with
  | .propose _ => none
  | .correct _ f => some f

/-- The feedback that corrections are asked for with, in order. -/
def handed (asked : List Exchange) : List Feedback := asked.filterMap (·.feedback?)

/-- The feedback that comes out when the budget is used up. -/
def returned (outcome : Except RefineError Accepted) : List Feedback :=
  match outcome with
  | .error (.retriesExhausted _ f) => [f]
  | .ok _ | .error _ => []

/-! ## What rounds keep -/

/-- The log leads to the state of the refinement. The moves to corrections have the problems of the
feedback that was handed to the source, the move that gives up has those of the feedback that comes
out, and the other moves have none. -/
structure Faithful (r : Refinement) (handed returned : List Feedback) : Prop where
  path : Path .drafting r.log.transitions r.state
  validations : ∀ n ∈ issuesInto r.log .validating, n = 0
  acceptances : ∀ n ∈ issuesInto r.log .accepted, n = 0
  corrections : issuesInto r.log .correcting = handed.map (·.length)
  exhaustions : issuesInto r.log .exhausted = returned.map (·.length)
  problems : ∀ f ∈ handed ++ returned, 1 ≤ f.length

theorem faithful_start (id : SessionId) (begun : Timestamp) (maxRetries : Nat) :
    (Refinement.start id begun maxRetries).Faithful [] [] :=
  ⟨rfl, List.forall_mem_nil _, List.forall_mem_nil _, rfl, rfl, List.forall_mem_nil _⟩

section

variable {r : Refinement} {hs gs : List Feedback} {f : Feedback}

/-- A move that reports no problem. -/
theorem Faithful.clean (h : r.Faithful hs gs) {target : RefineState}
    (hmove : r.state.canMoveTo target = true)
    (htarget : target = .validating ∨ target = .accepted) (now : Timestamp) :
    (r.record now target 0).Faithful hs gs where
  path := h.path.concat hmove 0 now
  validations := forall_issuesInto_record h.validations now target
  acceptances := forall_issuesInto_record h.acceptances now target
  corrections := by
    rw [issuesInto_record, if_neg (by rintro rfl; simp at htarget), List.append_nil, h.corrections]
  exhaustions := by
    rw [issuesInto_record, if_neg (by rintro rfl; simp at htarget), List.append_nil, h.exhaustions]
  problems := h.problems

/-- The move to a correction. -/
theorem Faithful.correcting (h : r.Faithful hs []) (hmove : r.state.canMoveTo .correcting = true)
    (hf : 1 ≤ f.length) (now : Timestamp) :
    (r.record now .correcting f.length).Faithful (hs ++ [f]) [] where
  path := h.path.concat hmove f.length now
  validations := by simpa [issuesInto_record] using h.validations
  acceptances := by simpa [issuesInto_record] using h.acceptances
  corrections := by simp [issuesInto_record, h.corrections]
  exhaustions := by simp [issuesInto_record, h.exhaustions]
  problems := by
    have hproblems := h.problems
    rw [List.append_nil] at hproblems ⊢
    exact List.forall_mem_append.2 ⟨hproblems, List.forall_mem_singleton.2 hf⟩

/-- The move that gives up. -/
theorem Faithful.exhausting (h : r.Faithful hs []) (hmove : r.state.canMoveTo .exhausted = true)
    (hf : 1 ≤ f.length) (now : Timestamp) :
    (r.record now .exhausted f.length).Faithful hs [f] where
  path := h.path.concat hmove f.length now
  validations := by simpa [issuesInto_record] using h.validations
  acceptances := by simpa [issuesInto_record] using h.acceptances
  corrections := by simp [issuesInto_record, h.corrections]
  exhaustions := by simp [issuesInto_record, h.exhaustions]
  problems := by
    have hproblems := h.problems
    rw [List.append_nil] at hproblems
    exact List.forall_mem_append.2 ⟨hproblems, List.forall_mem_singleton.2 hf⟩

/-- The end changes neither the moves nor the state. -/
theorem Faithful.complete (h : r.Faithful hs gs) (now : Timestamp) (version? : Option Nat) :
    (r.complete now version?).Faithful hs gs :=
  ⟨h.path, h.validations, h.acceptances, h.corrections, h.exhaustions, h.problems⟩

end

section

variable {a : AllowedColumns} {h : History} {remaining corrections : Nat}
  {r : Refinement} {d : Document} {asked : List Exchange} {result : RunResult}

/-- **The log behind all rounds is faithful** when the one before them is. -/
theorem Rounds.faithful (hrounds : Rounds a h remaining corrections r d asked result)
    {hs : List Feedback} (hlog : r.Faithful hs []) (hr : r.state.canMoveTo .validating = true) :
    result.refinement.Faithful (hs ++ handed asked) (returned result.outcome) := by
  induction hrounds generalizing hs with
  | accepted hv =>
    rw [handed, List.filterMap_nil, List.append_nil]
    exact ((hlog.clean hr (.inl rfl) _).clean rfl (.inr rfl) _).complete _ _
  | exhausted hf =>
    have hpos := length_pos_of_checkCandidate hf
    rw [handed, List.filterMap_nil, List.append_nil]
    exact ((hlog.clean hr (.inl rfl) _).exhausting rfl hpos _).complete _ none
  | failed hf =>
    have hpos := length_pos_of_checkCandidate hf
    exact (hlog.clean hr (.inl rfl) _).correcting rfl hpos _
  | corrected hf hrest ih =>
    have hpos := length_pos_of_checkCandidate hf
    have hnext := ih ((hlog.clean hr (.inl rfl) _).correcting rfl hpos _) rfl
    rw [List.append_assoc] at hnext
    exact hnext

/-- A correction is asked for only as long as one remains. -/
theorem Rounds.length_asked_le (hrounds : Rounds a h remaining corrections r d asked result) :
    asked.length ≤ remaining := by
  induction hrounds with
  | accepted | exhausted => exact Nat.zero_le _
  | failed => exact Nat.succ_le_succ (Nat.zero_le _)
  | corrected _ _ ih => exact Nat.succ_le_succ ih

/-- The end is marked exactly in the last states, and a version exactly in the state of acceptance:
the one that the run came to. -/
structure Closed (r : Refinement) (outcome : Except RefineError Accepted) : Prop where
  completed : r.log.completedAt.isSome = r.state.isTerminal
  accepted : r.log.acceptedVersion.isSome = decide (r.state = .accepted)
  version : ∀ version, r.log.acceptedVersion = some version ↔
    ∃ accepted, outcome = .ok accepted ∧ accepted.version = version

theorem Rounds.closed (hrounds : Rounds a h remaining corrections r d asked result)
    (hcompleted : r.log.completedAt = none) (hversion : r.log.acceptedVersion = none) :
    result.refinement.Closed result.outcome := by
  induction hrounds with
  | accepted => exact ⟨rfl, rfl, by simp [Refinement.accepted, complete]⟩
  | exhausted => exact ⟨rfl, rfl, by simp [Refinement.exhausted, complete]⟩
  | failed =>
    refine ⟨?_, ?_, ?_⟩ <;> simp [rejected, record, hcompleted, hversion, RefineState.isTerminal]
  | corrected _ _ ih => exact ih hcompleted hversion

end

/-! ## All uses of a refinement -/

variable {σ : Type}

/-- The refinement that uses leave behind. -/
def after (r : Refinement) (ts : List (Turn σ)) : Refinement :=
  ts.foldl (fun _ t => t.result.refinement) r

theorem after_of_same {r : Refinement} {ts : List (Turn σ)}
    (h : ∀ t ∈ ts, t.result.refinement = r) : after r ts = r := by
  induction ts with
  | nil => rfl
  | cons t ts ih =>
    obtain ⟨ht, hts⟩ := List.forall_mem_cons.1 h
    unfold after
    rw [List.foldl_cons, ht]
    exact ih hts

namespace Turn

variable {r : Refinement} {t : Turn σ}

theorem Unproposed.refinement (h : t.Unproposed r) : t.result.refinement = r := by
  obtain ⟨e, -, hresult⟩ := h
  rw [hresult]

theorem Refused.refinement (h : t.Refused r) : t.result.refinement = r := by
  rw [h.2]

/-- No feedback was handed to the source, and none came out. -/
structure Silent (t : Turn σ) : Prop where
  handed : handed t.asked = []
  returned : returned t.result.outcome = []
  outcome : ∀ accepted, t.result.outcome ≠ .ok accepted

theorem Unproposed.silent (h : t.Unproposed r) : t.Silent := by
  obtain ⟨e, hasked, hresult⟩ := h
  refine ⟨by rw [hasked]; rfl, by rw [hresult]; rfl, fun accepted hok => ?_⟩
  rw [hresult] at hok
  cases hok

theorem Refused.silent (h : t.Refused r) : t.Silent := by
  refine ⟨by rw [h.1]; rfl, by rw [h.2]; rfl, fun accepted hok => ?_⟩
  rw [h.2] at hok
  cases hok

end Turn

/-- What is known of a refinement with a budget behind some uses of it. -/
structure Kept (maxRetries : Nat) (ts : List (Turn σ)) (r : Refinement) : Prop where
  log : r.Faithful (ts.flatMap fun t => handed t.asked)
    (ts.flatMap fun t => returned t.result.outcome)
  budget : (ts.flatMap fun t => handed t.asked).length ≤ maxRetries
  completed : r.log.completedAt.isSome = r.state.isTerminal
  accepted : r.log.acceptedVersion.isSome = decide (r.state = .accepted)
  version : ∀ version, r.log.acceptedVersion = some version ↔
    ∃ t ∈ ts, ∃ accepted snapshot, t.result.outcome = .ok accepted ∧
      accepted.version = version ∧ t.appended = [snapshot] ∧ snapshot.version = version

theorem flatMap_handed_of_silent {ts : List (Turn σ)} (h : ∀ t ∈ ts, t.Silent) :
    (ts.flatMap fun t => handed t.asked) = [] :=
  List.flatMap_eq_nil_iff.2 fun t ht => (h t ht).handed

theorem flatMap_returned_of_silent {ts : List (Turn σ)} (h : ∀ t ∈ ts, t.Silent) :
    (ts.flatMap fun t => returned t.result.outcome) = [] :=
  List.flatMap_eq_nil_iff.2 fun t ht => (h t ht).returned

theorem kept_start (id : SessionId) (begun : Timestamp) (maxRetries : Nat) {ts : List (Turn σ)}
    (h : ∀ t ∈ ts, t.Silent) : Kept maxRetries ts (.start id begun maxRetries) where
  log := by
    rw [flatMap_handed_of_silent h, flatMap_returned_of_silent h]
    exact faithful_start id begun maxRetries
  budget := by
    rw [flatMap_handed_of_silent h]
    exact Nat.zero_le _
  completed := rfl
  accepted := rfl
  version version := by
    constructor
    · exact nofun
    · rintro ⟨t, ht, accepted, -, hok, -⟩
      exact absurd hok ((h t ht).outcome accepted)

/-- A run with a proposal keeps all this, with any silent uses around it. -/
theorem kept_proposed {id : SessionId} {begun : Timestamp} {maxRetries : Nat} {first : Turn σ}
    (hfirst : first.Proposed (.start id begun maxRetries)) {failed later : List (Turn σ)}
    (hfailed : ∀ t ∈ failed, t.Silent) (hlater : ∀ t ∈ later, t.Silent) :
    Kept maxRetries (failed ++ first :: later) first.result.refinement := by
  obtain ⟨d, asked, hasked, hrounds⟩ := hfirst
  have hclosed := hrounds.closed rfl rfl
  have hhanded : ((failed ++ first :: later).flatMap fun t => handed t.asked) = handed asked := by
    rw [List.flatMap_append, List.flatMap_cons, flatMap_handed_of_silent hfailed,
      flatMap_handed_of_silent hlater, List.nil_append, List.append_nil, hasked]
    rfl
  have hreturned : ((failed ++ first :: later).flatMap fun t => returned t.result.outcome) =
      returned first.result.outcome := by
    rw [List.flatMap_append, List.flatMap_cons, flatMap_returned_of_silent hfailed,
      flatMap_returned_of_silent hlater, List.nil_append, List.append_nil]
  refine ⟨?_, ?_, hclosed.completed, hclosed.accepted, fun version => ?_⟩
  · rw [hhanded, hreturned]
    exact hrounds.faithful (faithful_start id begun maxRetries) rfl
  · rw [hhanded]
    exact Nat.le_trans (List.length_filterMap_le _ _) hrounds.length_asked_le
  · rw [hclosed.version]
    constructor
    · rintro ⟨accepted, hok, hversion⟩
      rcases hrounds.history with ⟨accepted', now, v, hok', hlength, hhistory⟩ | ⟨e, herror, -⟩
      · cases hok.symm.trans hok'
        refine ⟨first, by simp, accepted, first.use.history.nextSnapshot now v, hok,
          hversion, ?_, hlength.symm.trans hversion⟩
        exact Turn.appended_of_history_eq (by rw [hhistory]; rfl)
      · cases hok.symm.trans herror
    · rintro ⟨t, ht, accepted, -, hok, hversion, -⟩
      -- Silent uses accept nothing, so the accepting use is the run with the proposal.
      rcases List.mem_append.1 ht with ht | ht
      · exact absurd hok ((hfailed t ht).outcome accepted)
      · rcases List.mem_cons.1 ht with rfl | ht
        · exact ⟨accepted, hok, hversion⟩
        · exact absurd hok ((hlater t ht).outcome accepted)

/-- **What is kept behind any uses** of a refinement: the ones around the run with a proposal, if
there is one, are silent and leave the refinement alone. -/
theorem kept_turns [Clock (StateM σ)] (s : σ) (id : SessionId) (begun : Timestamp)
    (maxRetries : Nat) (uses : List (Use σ)) :
    Kept maxRetries (turns (.start id begun maxRetries) s uses)
      (after (.start id begun maxRetries) (turns (.start id begun maxRetries) s uses)) := by
  rcases turns_split (r := .start id begun maxRetries) rfl s uses with
    hall | ⟨failed, first, later, hts, hfailed, hfirst, hlater⟩
  · rw [after_of_same fun t ht => (hall t ht).refinement]
    exact kept_start id begun maxRetries fun t ht => (hall t ht).silent
  · have hfailed' := after_of_same fun t ht => (hfailed t ht).refinement
    have hlater' := after_of_same fun t ht => (hlater t ht).refinement
    have hafter : after (.start id begun maxRetries) (failed ++ first :: later) =
        first.result.refinement := by
      unfold after at *
      rw [List.foldl_append, hfailed', List.foldl_cons, hlater']
    rw [hts, hafter]
    exact kept_proposed hfirst (fun t ht => (hfailed t ht).silent)
      fun t ht => (hlater t ht).silent

/-- What is recorded with a move depends on where it leads. -/
theorem Faithful.issues {r : Refinement} {hs gs : List Feedback} (h : r.Faithful hs gs)
    {t : Transition} (ht : t ∈ r.log.transitions) :
    (t.target = .validating ∨ t.target = .accepted → t.issues = 0) ∧
    (t.target = .correcting ∨ t.target = .exhausted → 1 ≤ t.issues) := by
  have hmem := mem_issuesInto ht
  constructor
  · rintro (htarget | htarget)
    · exact h.validations _ (htarget ▸ hmem)
    · exact h.acceptances _ (htarget ▸ hmem)
  · rintro (htarget | htarget)
    · rw [htarget, h.corrections] at hmem
      obtain ⟨f, hf, hlength⟩ := List.mem_map.1 hmem
      rw [← hlength]
      exact h.problems f (List.mem_append_left _ hf)
    · rw [htarget, h.exhaustions] at hmem
      obtain ⟨f, hf, hlength⟩ := List.mem_map.1 hmem
      rw [← hlength]
      exact h.problems f (List.mem_append_right _ hf)

/-- **The log is a faithful path of the state machine**, after any uses of a refinement. The
recorded moves lead from drafting to the state that the refinement is in, each from where the one
before led to and by a move that is allowed. A move to a validation or to the acceptance has no
problem; the moves to corrections have the problems of the feedback handed to the source, the move
that gives up those of the feedback that comes out, and each of them at least one. There are no more
corrections than allowed. The end is marked exactly in a last state, and a version exactly in the
state of acceptance: the one that the accepting use returned and gave to the model it appended. -/
theorem log_faithful [Clock (StateM σ)] (s : σ) (id : SessionId) (begun : Timestamp)
    (maxRetries : Nat) (uses : List (Use σ)) :
    let ts := turns (.start id begun maxRetries) s uses
    let r := after (.start id begun maxRetries) ts
    Path .drafting r.log.transitions r.state ∧
    (∀ t ∈ r.log.transitions,
      (t.target = .validating ∨ t.target = .accepted → t.issues = 0) ∧
      (t.target = .correcting ∨ t.target = .exhausted → 1 ≤ t.issues)) ∧
    issuesInto r.log .correcting = (ts.flatMap fun t => handed t.asked).map (·.length) ∧
    issuesInto r.log .exhausted = (ts.flatMap fun t => returned t.result.outcome).map (·.length) ∧
    (issuesInto r.log .correcting).length ≤ maxRetries ∧
    (r.log.completedAt.isSome = true ↔ r.state.isTerminal = true) ∧
    (r.log.acceptedVersion.isSome = true ↔ r.state = .accepted) ∧
    ∀ version, r.log.acceptedVersion = some version ↔
      ∃ t ∈ ts, ∃ accepted snapshot, t.result.outcome = .ok accepted ∧
        accepted.version = version ∧ t.appended = [snapshot] ∧ snapshot.version = version := by
  intro ts r
  have hkept : Kept maxRetries ts r := kept_turns s id begun maxRetries uses
  refine ⟨hkept.log.path, fun t ht => hkept.log.issues ht, hkept.log.corrections,
    hkept.log.exhaustions, ?_, ?_, ?_, hkept.version⟩
  · rw [hkept.log.corrections, List.length_map]
    exact hkept.budget
  · rw [hkept.completed]
  · rw [hkept.accepted, decide_eq_true_iff]

end Refinement

end GraphIngest
