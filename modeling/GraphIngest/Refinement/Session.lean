import GraphIngest.Clock
import GraphIngest.History
import GraphIngest.Refinement.Basic

/-!
# Running a refinement

A candidate source proposes a document and corrects it after feedback. `Refinement.run` asks it for
documents until one is accepted into the history, the budget of corrections is used up, or the
source fails. A failed proposal leaves the refinement as it was; after the first proposal it never
runs again.
-/

namespace GraphIngest

/-- A failure of a candidate source: what happened, from the outermost context inwards. -/
structure SourceFailure where
  chain : List String
  deriving DecidableEq, Repr

/-- All of a failure in one line. -/
def SourceFailure.text (f : SourceFailure) : String := ": ".intercalate f.chain

/-- What proposes and corrects candidates, with effects in a monad. -/
structure CandidateSource (m : Type → Type) where
  propose : DraftRequest → m (Except SourceFailure Document)
  correct : Document → Feedback → m (Except SourceFailure Document)

/-- Why a run has no accepted model. -/
inductive RefineError where
  | source (cause : SourceFailure)
  | retriesExhausted (attempts : Nat) (feedback : Feedback)
  | invalidTransition (origin target : RefineState)
  deriving DecidableEq, Repr

/-- The message about a run without an accepted model. -/
def RefineError.message : RefineError → String
  | .source cause => "Candidate source failed: " ++ cause.text
  | .retriesExhausted attempts feedback =>
    "No valid model after " ++ toString attempts ++ " attempt(s); last feedback: " ++ feedback.text
  | .invalidTransition origin target =>
    "Refinement cannot move from " ++ origin.text ++ " to " ++ target.text

/-- The outcome of a run with an accepted model. -/
structure Accepted where
  session : SessionId
  version : Nat
  /-- The corrections that were needed. -/
  corrections : Nat
  deriving DecidableEq, Repr

/-- A refinement: its budget of corrections, its state, and its log. -/
structure Refinement where
  maxRetries : Nat
  state : RefineState
  log : RefinementLog
  deriving DecidableEq, Repr

/-- What a run leaves behind. -/
structure RunResult where
  outcome : Except RefineError Accepted
  refinement : Refinement
  history : History

namespace Refinement

/-- The corrections that are allowed unless a number is set. -/
def defaultMaxRetries : Nat := 3

/-- A refinement that has not begun; `begun` is when it was made. -/
def start (id : SessionId) (begun : Timestamp) (maxRetries : Nat) : Refinement :=
  ⟨maxRetries, .drafting, ⟨id, begun, none, [], none⟩⟩

/-- Records a change of state. -/
def record (r : Refinement) (now : Timestamp) (target : RefineState) (issues : Nat) : Refinement :=
  { r with
    state := target
    log := { r.log with transitions := r.log.transitions ++ [⟨r.state, target, issues, now⟩] } }

/-- Records the end, with the version of the accepted model if there is one. -/
def complete (r : Refinement) (now : Timestamp) (version? : Option Nat) : Refinement :=
  { r with log := { r.log with completedAt := some now, acceptedVersion := version? } }

variable {m : Type → Type} [Monad m] [Clock m]

/-- Moves to a state and records it, unless that state may not follow. -/
def moveTo (r : Refinement) (target : RefineState) (issues : Nat) :
    m (Except RefineError Refinement) :=
  if r.state.canMoveTo target then do return .ok (r.record (← Clock.now) target issues)
  else return .error (.invalidTransition r.state target)

/-- The end of a run that accepts a model. -/
def acceptWith (r : Refinement) (corrections : Nat) (h : History) (v : AcceptedModel) :
    m RunResult := do
  match ← r.moveTo .accepted 0 with
  | .error e => return ⟨.error e, r, h⟩
  | .ok r =>
    let h' := h.append (← Clock.now) v
    let r' := r.complete (← Clock.now) (some h'.length)
    return ⟨.ok ⟨r.log.id, h'.length, corrections⟩, r', h'⟩

/-- The end of a run whose budget is used up. -/
def exhaust (r : Refinement) (corrections : Nat) (h : History) (feedback : Feedback) :
    m RunResult := do
  match ← r.moveTo .exhausted feedback.length with
  | .error e => return ⟨.error e, r, h⟩
  | .ok r =>
    let r' := r.complete (← Clock.now) none
    return ⟨.error (.retriesExhausted (corrections + 1) feedback), r', h⟩

/-- Validates a candidate and has it corrected as long as corrections remain. -/
def validateRounds (source : CandidateSource m) (a : AllowedColumns) (h : History)
    (remaining corrections : Nat) (r : Refinement) (candidate : Document) : m RunResult := do
  match ← r.moveTo .validating 0 with
  | .error e => return ⟨.error e, r, h⟩
  | .ok r =>
    match checkCandidate candidate a with
    | .ok v => r.acceptWith corrections h v
    | .error feedback =>
      match remaining with
      | 0 => r.exhaust corrections h feedback
      | remaining + 1 =>
        match ← r.moveTo .correcting feedback.length with
        | .error e => return ⟨.error e, r, h⟩
        | .ok r =>
          match ← source.correct candidate feedback with
          | .error e => return ⟨.error (.source e), r, h⟩
          | .ok next => validateRounds source a h remaining (corrections + 1) r next

/-- Runs a refinement that has not begun; any other one stays as it is. -/
def run (r : Refinement) (source : CandidateSource m) (request : DraftRequest) (h : History) :
    m RunResult :=
  if r.state = .drafting then do
    match ← source.propose request with
    | .error e => return ⟨.error (.source e), r, h⟩
    | .ok candidate => validateRounds source request.columns h r.maxRetries 0 r candidate
  else pure ⟨.error (.invalidTransition r.state .validating), r, h⟩

end Refinement

end GraphIngest
