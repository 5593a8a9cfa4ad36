import GraphIngest.Files.Access
import GraphIngest.Refinement.Session

/-!
# Drafts in files

A candidate source whose documents are files that were written beforehand: the first file is the
proposal, and each correction is the next file, whatever the feedback says.
-/

namespace GraphIngest.CommandLine

variable {m : Type → Type} [Monad m] [FileAccess m]

/-- Reads a draft. -/
def readDraft (path : String) : m (Except SourceFailure Document) := do
  match ← FileAccess.readText path with
  | .error e => return .error ⟨["reading draft " ++ path, e.message]⟩
  | .ok s => match Document.ofText s with
    | .ok d => return .ok d
    | .error f =>
      return .error ⟨["parsing draft " ++ path, "Serialization error: " ++ f.message, f.message]⟩

/-- Takes the next draft of the ones that are left. -/
def nextDraft : StateT (List String) m (Except SourceFailure Document) := fun pending =>
  match pending with
  | [] => return (.error ⟨["no drafts left to try"]⟩, [])
  | path :: pending => do return (← readDraft path, pending)

/-- The source of drafts; its state is the drafts that are left. -/
def draftSource : CandidateSource (StateT (List String) m) where
  propose _ := nextDraft
  correct _ _ := nextDraft

/-- Refines drafts, in their order, against columns. -/
def refineDrafts [Clock m] (id : SessionId) (drafts : List String) (a : AllowedColumns)
    (maxRetries : Nat) (h : History) : m RunResult := do
  let r := Refinement.start id (← Clock.now) maxRetries
  let (result, _) ← (r.run draftSource (.ofColumns a) h).run drafts
  return result

end GraphIngest.CommandLine
