import GraphIngest.Refinement.Basic
import GraphIngest.Validation.Codec

/-!
# The JSON form of requests, feedback and logs
-/

namespace GraphIngest

open Json (Decoder)

/-- A state is written as its name. -/
def RefineState.toJson (s : RefineState) : Json := .string s.text

/-- Decodes a state. -/
def RefineState.decoder : Decoder RefineState := Decoder.variant (all.map fun s => (s.text, s))

/-- The JSON form of a request. -/
def DraftRequest.toJson (r : DraftRequest) : Json :=
  .object
    [("allowed_columns", r.columns.toJson), ("discovery", .string r.discovery),
     ("use_cases", .strings r.useCases)]

/-- Decodes a request. -/
def DraftRequest.decoder : Decoder DraftRequest :=
  Decoder.record "DraftRequest" (.ofColumns (.flat []))
    [.of "allowed_columns" .required AllowedColumns.decoder fun v r => { r with columns := v },
     .of "discovery" .optional .string fun v r => { r with discovery := v },
     .of "use_cases" .optional (.list .string) fun v r => { r with useCases := v }]

/-- The JSON form of feedback: its kind, then its problems. -/
def Feedback.toJson : Feedback → Json
  | structural issues =>
    .object [("kind", .string "structural"), ("issues", .array (issues.map (·.toJson)))]
  | schema violations =>
    .object [("kind", .string "schema"), ("issues", .array (violations.map (·.toJson)))]

/-- Decodes feedback. -/
def Feedback.decoder : Decoder Feedback :=
  Decoder.adjacent "Feedback" "kind" "issues"
    [("structural", fun o t => (Decoder.list ConstructionIssue.decoder o t).map structural),
     ("schema", fun o t => (Decoder.list Violation.decoder o t).map schema)]

/-- The JSON form of a change of state. -/
def Transition.toJson (t : Transition) : Json :=
  .object
    [("from", t.origin.toJson), ("to", t.target.toJson), ("issues", .nat t.issues),
     ("at", t.time.toJson)]

/-- Decodes a change of state. -/
def Transition.decoder : Decoder Transition :=
  Decoder.record "Transition" ⟨.drafting, .drafting, 0, default⟩
    [.of "from" .required RefineState.decoder fun v t => { t with origin := v },
     .of "to" .required RefineState.decoder fun v t => { t with target := v },
     .of "issues" .required .size fun v t => { t with issues := v },
     .of "at" .required Timestamp.decoder fun v t => { t with time := v }]

/-- The JSON form of a log. -/
def RefinementLog.toJson (l : RefinementLog) : Json :=
  .object
    [("id", l.id.toJson), ("started_at", l.startedAt.toJson),
     ("completed_at", Json.option (·.toJson) l.completedAt),
     ("transitions", .array (l.transitions.map (·.toJson))),
     ("accepted_version", Json.option .nat l.acceptedVersion)]

/-- Decodes a log. -/
def RefinementLog.decoder : Decoder RefinementLog :=
  Decoder.record "RefinementLog" ⟨default, default, none, [], none⟩
    [.of "id" .required SessionId.decoder fun v l => { l with id := v },
     .of "started_at" .required Timestamp.decoder fun v l => { l with startedAt := v },
     .of "completed_at" .optionalByName (.option Timestamp.decoder) fun v l =>
       { l with completedAt := v },
     .of "transitions" .required (.list Transition.decoder) fun v l => { l with transitions := v },
     .of "accepted_version" .optionalByName (.option .size) fun v l =>
       { l with acceptedVersion := v }]

end GraphIngest
