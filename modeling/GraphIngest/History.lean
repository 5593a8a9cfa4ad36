import GraphIngest.Fingerprint
import GraphIngest.Timestamp
import GraphIngest.Validation

/-!
# The history of accepted models

A history is an append-only list of snapshots. Versions count from one; negative versions count back
from the latest one, which is `-1`. A snapshot keeps its model with the columns it was validated
against and the fingerprint of the model, so that a saved history can be checked when it is read.
-/

namespace GraphIngest

open Json (Decoder)

/-- One accepted version of a model. -/
structure Snapshot where
  version : Nat
  acceptedAt : Timestamp
  fingerprint : String
  columns : AllowedColumns
  model : Model
  deriving DecidableEq, Repr

/-- The accepted versions in their order. -/
structure History where
  snapshots : List Snapshot
  deriving DecidableEq, Repr

/-- A version that a history does not have. -/
structure VersionOutOfRange where
  version : Int
  length : Nat
  deriving DecidableEq, Repr

/-- The message about a version that a history does not have. -/
def VersionOutOfRange.message (e : VersionOutOfRange) : String :=
  "Version " ++ toString e.version ++ " is out of range for a history of " ++
    toString e.length ++ " snapshot(s)"

/-- Why the snapshots of a saved history do not hold together. -/
inductive Corruption where
  | misnumbered (position version : Nat)
  | fingerprintMismatch (version : Nat)
  | invalid (version : Nat) (violation : Violation)
  deriving DecidableEq, Repr

/-- The message about a saved history that does not hold together. -/
def Corruption.message : Corruption → String
  | .misnumbered position version =>
    "Corrupt history: snapshot at position " ++ toString position ++ " is numbered " ++
      toString version
  | .fingerprintMismatch version =>
    "Corrupt history: version " ++ toString version ++ " does not match its fingerprint"
  | .invalid version violation =>
    "Corrupt history: version " ++ toString version ++ " no longer validates: " ++
      violation.message

/-- Why a text holds no history. -/
inductive HistoryFault where
  | json (fault : Json.Fault)
  | corrupt (cause : Corruption)
  deriving DecidableEq, Repr

namespace Snapshot

/-- The JSON form of a snapshot. -/
def toJson (s : Snapshot) : Json :=
  .object
    [("version", .nat s.version), ("accepted_at", s.acceptedAt.toJson),
     ("fingerprint", .string s.fingerprint), ("allowed_columns", s.columns.toJson),
     ("model", s.model.toJson)]

/-- A snapshot of nothing. -/
def blank : Snapshot := ⟨0, ⟨0, 1, 1, 0, 0, 0, 0⟩, "", .flat [], ⟨⟨[], []⟩, rfl⟩⟩

/-- Decodes a snapshot without checking what it claims. -/
def decoder : Decoder Snapshot :=
  Decoder.record "SavedSnapshot" blank
    [.of "version" .required .size fun v s => { s with version := v },
     .of "accepted_at" .required Timestamp.decoder fun v s => { s with acceptedAt := v },
     .of "fingerprint" .required .string fun v s => { s with fingerprint := v },
     .of "allowed_columns" .required AllowedColumns.decoder fun v s => { s with columns := v },
     .of "model" .required Model.decoder fun v s => { s with model := v }]

/-- What is wrong with a snapshot at a position, counted from one. -/
def corruption? (position : Nat) (s : Snapshot) : Option Corruption :=
  if s.version ≠ position then some (.misnumbered position s.version)
  else if s.model.fingerprint ≠ s.fingerprint then some (.fingerprintMismatch s.version)
  else match validate s.model s.columns with
    | [] => none
    | v :: _ => some (.invalid s.version v)

end Snapshot

namespace History

/-- The history without a version. -/
def empty : History := ⟨[]⟩

instance : Inhabited History := ⟨empty⟩

/-- The number of versions. -/
def length (h : History) : Nat := h.snapshots.length

/-- The snapshot that a model becomes as the next version. -/
def nextSnapshot (h : History) (now : Timestamp) (v : AcceptedModel) : Snapshot :=
  ⟨h.length + 1, now, v.model.fingerprint, v.columns, v.model⟩

/-- The history with an accepted model as its next version. -/
def append (h : History) (now : Timestamp) (v : AcceptedModel) : History :=
  ⟨h.snapshots ++ [h.nextSnapshot now v]⟩

/-- The position of a version, counted from zero. -/
def position? (h : History) (version : Int) : Option Nat :=
  if version = 0 ∨ h.length < version.natAbs then none
  else if 0 < version then some (version.natAbs - 1)
  else some (h.length - version.natAbs)

/-- The snapshot of a version. -/
def get (h : History) (version : Int) : Except VersionOutOfRange Snapshot :=
  match (h.position? version).bind (h.snapshots[·]?) with
  | some s => .ok s
  | none => .error ⟨version, h.length⟩

/-- The snapshot of the latest version. -/
def current (h : History) : Except VersionOutOfRange Snapshot := h.get (-1)

/-- The document of a version. -/
def document (h : History) (version : Int) : Except VersionOutOfRange Document := do
  return (← h.get version).model.document

/-! ## The saved form -/

/-- The JSON form of a history. -/
def toJson (h : History) : Json := .object [("snapshots", .array (h.snapshots.map (·.toJson)))]

/-- The text that a history is saved as. -/
def text (h : History) : String := h.toJson.pretty

/-- Decodes a list of snapshots without checking what they claim. -/
def decoder : Decoder History :=
  Decoder.record "Saved" empty
    [.of "snapshots" .required (.list Snapshot.decoder) fun v _ => ⟨v⟩]

/-- The first corruption of snapshots from a position on. -/
def corruptionFrom? : Nat → List Snapshot → Option Corruption
  | _, [] => none
  | position, s :: ss => match s.corruption? position with
    | some c => some c
    | none => corruptionFrom? (position + 1) ss

/-- The history that a text holds: every snapshot has its number and the fingerprint of its model,
and its model still validates. -/
def ofText (s : String) : Except HistoryFault History :=
  match Json.decodeText decoder s with
  | .error f => .error (.json f)
  | .ok h => match corruptionFrom? 1 h.snapshots with
    | some c => .error (.corrupt c)
    | none => .ok h

end History

end GraphIngest
