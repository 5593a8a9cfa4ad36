import GraphIngest.Model.Document
import GraphIngest.Refinement.SessionId
import GraphIngest.Timestamp
import GraphIngest.Validation

/-!
# States, feedback and the log of a refinement

A refinement drafts a model, validates it, and has it corrected until it is accepted or the budget
of corrections is used up. Every change of its state is recorded.
-/

namespace GraphIngest

/-- Where a refinement is. -/
inductive RefineState where
  | drafting
  | validating
  | correcting
  | accepted
  | exhausted
  deriving DecidableEq, Repr, Inhabited

namespace RefineState

/-- All states, in the order of a refinement. -/
def all : List RefineState := [drafting, validating, correcting, accepted, exhausted]

/-- The states that may follow a state. -/
def next : RefineState → List RefineState
  | drafting => [validating]
  | validating => [correcting, accepted, exhausted]
  | correcting => [validating]
  | accepted | exhausted => []

/-- A refinement may move from one state to the other. -/
def canMoveTo (a b : RefineState) : Bool := a.next.contains b

/-- No state follows. -/
def isTerminal : RefineState → Bool
  | accepted | exhausted => true
  | drafting | validating | correcting => false

/-- The name of a state. -/
def text : RefineState → String
  | drafting => "drafting"
  | validating => "validating"
  | correcting => "correcting"
  | accepted => "accepted"
  | exhausted => "exhausted"

theorem isTerminal_iff (s : RefineState) : s.isTerminal = true ↔ s.next = [] := by
  cases s <;> simp [isTerminal, next]

end RefineState

/-- What a candidate source is asked to model. -/
structure DraftRequest where
  columns : AllowedColumns
  discovery : String
  useCases : List String
  deriving DecidableEq, Repr

/-- A request that says nothing but the columns. -/
def DraftRequest.ofColumns (a : AllowedColumns) : DraftRequest := ⟨a, "", []⟩

/-- Why a candidate was not accepted. -/
inductive Feedback where
  | structural (issues : List ConstructionIssue)
  | schema (violations : List Violation)
  deriving DecidableEq, Repr

namespace Feedback

/-- A message for each problem. -/
def messages : Feedback → List String
  | structural issues => issues.map (·.message)
  | schema violations => violations.map (·.message)

/-- The number of problems. -/
def length : Feedback → Nat
  | structural issues => issues.length
  | schema violations => violations.length

/-- All problems in one line. -/
def text (f : Feedback) : String := "; ".intercalate f.messages

end Feedback

/-- Builds and validates a candidate. -/
def checkCandidate (candidate : Document) (a : AllowedColumns) : Except Feedback AcceptedModel :=
  match candidate.build with
  | .error issues => .error (.structural issues)
  | .ok m => match accept m a with
    | .error violations => .error (.schema violations)
    | .ok v => .ok v

/-- A recorded change of state. -/
structure Transition where
  origin : RefineState
  target : RefineState
  /-- The number of problems found when leaving validation for another attempt or for good. -/
  issues : Nat
  time : Timestamp
  deriving DecidableEq, Repr

/-- The record of a refinement. -/
structure RefinementLog where
  id : SessionId
  startedAt : Timestamp
  completedAt : Option Timestamp
  transitions : List Transition
  /-- The version that the accepted model became. -/
  acceptedVersion : Option Nat
  deriving DecidableEq, Repr

end GraphIngest
