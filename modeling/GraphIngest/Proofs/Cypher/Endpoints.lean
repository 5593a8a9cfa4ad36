import GraphIngest.Proofs.Cypher.Reads

/-!
# The ends that the generator does not find

Validation and the generator look up the ends of relationships on their own: one reports every end
that no node declares, the other fails at the first one. Both go through the relationships in their
order and look at the source before the target, so they speak of the same end.

* `filterMap_undeclared?` — the ends that a report is about, whatever the allowed columns are;
* `mapM_relationshipStatement_eq_error_iff` — the statements of the relationships fail at the first
  of them;
* `Model.Fits.exists_statement` — where every end is declared there is a statement for each entity,
  and it finds nodes by keys that are not empty.
-/

namespace GraphIngest

open Cypher

variable {m : Model} {a : AllowedColumns}

/-! ## Undeclared ends -/

/-- The failure of a generator that a violation foretells. -/
def Violation.undeclared? : Violation → Option UndeclaredEndpoint
  | .unknownEndpoint type _ label => some ⟨type, label⟩
  | _ => none

/-- The end of a relationship, if no node of the model declares it. -/
def Model.undeclaredEnd? (m : Model) (r : Relationship) (role : EndpointRole) :
    Option UndeclaredEndpoint :=
  if (m.node? (r.endLabel role)).isNone then some ⟨r.type, r.endLabel role⟩ else none

/-- The ends of a relationship that no node of the model declares, its source first. -/
def Model.undeclaredEnds (m : Model) (r : Relationship) : List UndeclaredEndpoint :=
  [EndpointRole.source, .target].filterMap (m.undeclaredEnd? r)

theorem Model.undeclaredEnd?_of_some {r : Relationship} {role : EndpointRole} {n : Node}
    (hn : m.node? (r.endLabel role) = some n) : m.undeclaredEnd? r role = none := by
  unfold undeclaredEnd?
  rw [hn]
  rfl

theorem Model.undeclaredEnd?_of_none {r : Relationship} {role : EndpointRole}
    (hn : m.node? (r.endLabel role) = none) :
    m.undeclaredEnd? r role = some ⟨r.type, r.endLabel role⟩ := by
  unfold undeclaredEnd?
  rw [hn]
  rfl

/-! ## What a report says about ends -/

/-- What the violation at a place says about an end. -/
def Place.undeclared? (m : Model) (a : AllowedColumns) (place : Place) :
    Option UndeclaredEndpoint := (place.violation? m a).bind Violation.undeclared?

theorem Place.undeclared?_endpoint (r : Relationship) (role : EndpointRole) :
    (Place.endpoint r role).undeclared? m a = m.undeclaredEnd? r role := by
  unfold undeclared?
  cases hn : m.node? (r.endLabel role) with
  | none =>
    have hv : (Place.endpoint r role).violation? m a =
        some (.unknownEndpoint r.type role (r.endLabel role)) :=
      if_pos (Model.node?_eq_none_iff.1 hn)
    rw [hv, Model.undeclaredEnd?_of_none hn]
    rfl
  | some n =>
    obtain ⟨hmem, hlabel⟩ := Model.node?_eq_some_iff.1 hn
    have hv : (Place.endpoint r role).violation? m a = none := if_neg fun hno => hno n hmem hlabel
    rw [hv, Model.undeclaredEnd?_of_some hn]
    rfl

/-- Only the place of an end has a violation that is about one. -/
theorem Place.undeclared?_of_ne {place : Place} (h : ∀ r role, place ≠ .endpoint r role) :
    place.undeclared? m a = none := by
  refine Option.bind_eq_none_iff.2 fun v hv => ?_
  cases place with
  | source | column | uniqueColumn | nodeKey | endpointKey =>
    obtain ⟨-, ⟨⟩⟩ := Option.ite_none_right_eq_some.1 hv
    rfl
  | endpoint r role => exact absurd rfl (h r role)
  | constraint =>
    obtain ⟨o, -, rfl⟩ := Option.map_eq_some_iff.1 hv
    rfl

theorem filterMap_mappingPlaces (e : Entity) :
    (mappingPlaces e).filterMap (Place.undeclared? m a) = [] := by
  refine List.filterMap_eq_nil_iff.2 fun place hplace => Place.undeclared?_of_ne fun r role => ?_
  rcases mem_mappingPlaces.1 hplace with rfl | ⟨p, -, rfl | rfl⟩ <;> exact nofun

theorem filterMap_endPlaces (r : Relationship) (role : EndpointRole) :
    (endPlaces m r role).filterMap (Place.undeclared? m a) = (m.undeclaredEnd? r role).toList := by
  have hkeys : ((m.nodes.filter (·.label == r.endLabel role)).flatMap fun n =>
      n.properties.map (.endpointKey r role n)).filterMap (Place.undeclared? m a) = [] := by
    refine List.filterMap_eq_nil_iff.2 fun place hplace => Place.undeclared?_of_ne ?_
    obtain ⟨n, -, hp⟩ := List.mem_flatMap.1 hplace
    obtain ⟨p, -, rfl⟩ := List.mem_map.1 hp
    exact nofun
  unfold endPlaces
  rw [List.filterMap_cons, Place.undeclared?_endpoint, hkeys]
  cases m.undeclaredEnd? r role <;> rfl

/-- **The report is about the undeclared ends**, in the order of the relationships. -/
theorem filterMap_undeclared? (m : Model) (a : AllowedColumns) :
    (validate m a).filterMap Violation.undeclared? = m.relationships.flatMap m.undeclaredEnds := by
  have hnodes : (m.nodes.flatMap fun n => mappingPlaces (.node n) ++ [.nodeKey n]).filterMap
      (Place.undeclared? m a) = [] := by
    rw [List.filterMap_flatMap]
    refine List.flatMap_eq_nil_iff.2 fun n _ => ?_
    rw [List.filterMap_append, filterMap_mappingPlaces, List.nil_append]
    exact List.filterMap_eq_nil_iff.2 fun place hplace => Place.undeclared?_of_ne fun r role => by
      rw [List.mem_singleton.1 hplace]
      exact nofun
  have hrelationships : (m.relationships.flatMap fun r =>
      mappingPlaces (.relationship r) ++ endPlaces m r .source ++ endPlaces m r .target).filterMap
        (Place.undeclared? m a) = m.relationships.flatMap m.undeclaredEnds := by
    rw [List.filterMap_flatMap]
    refine congrArg m.relationships.flatMap (funext fun r => ?_)
    rw [List.filterMap_append, List.filterMap_append, filterMap_mappingPlaces,
      filterMap_endPlaces, filterMap_endPlaces]
    unfold Model.undeclaredEnds
    cases hs : m.undeclaredEnd? r .source <;> cases ht : m.undeclaredEnd? r .target <;>
      simp [hs, ht]
  have hconstraints : (constraintPlaces [] m.entities).filterMap (Place.undeclared? m a) = [] := by
    refine List.filterMap_eq_nil_iff.2 fun place hplace => Place.undeclared?_of_ne fun r role => ?_
    obtain ⟨_, _, _, _, -, -, rfl⟩ := mem_constraintPlaces.1 hplace
    exact nofun
  have hplaces : (validate m a).filterMap Violation.undeclared? =
      m.places.filterMap (Place.undeclared? m a) := by
    rw [validate_eq_places, List.filterMap_filterMap]
    rfl
  rw [hplaces]
  unfold Model.places
  rw [List.filterMap_append, List.filterMap_append, hnodes, hrelationships, hconstraints,
    List.nil_append, List.append_nil]

/-! ## What the generator fails at -/

section

variable {rs : List Relationship} {sizes : BatchSizes} {r : Relationship} {e : UndeclaredEndpoint}

theorem endpoint_eq_error_iff {role : EndpointRole} :
    Generator.endpoint ⟨m.nodes, rs, sizes⟩ r (r.endLabel role) = .error e ↔
      m.undeclaredEnd? r role = some e := by
  cases hn : m.node? (r.endLabel role) with
  | none =>
    have hend : Generator.endpoint ⟨m.nodes, rs, sizes⟩ r (r.endLabel role) =
        .error ⟨r.type, r.endLabel role⟩ := by
      unfold Generator.endpoint
      rw [show m.nodes.find? (·.label == r.endLabel role) = none from hn]
    rw [hend, Model.undeclaredEnd?_of_none hn, Except.error.injEq, Option.some_inj]
  | some n =>
    have hend : Generator.endpoint ⟨m.nodes, rs, sizes⟩ r (r.endLabel role) = .ok n := by
      unfold Generator.endpoint
      rw [show m.nodes.find? (·.label == r.endLabel role) = some n from hn]
    rw [hend, Model.undeclaredEnd?_of_some hn]
    exact ⟨nofun, nofun⟩

/-- The statement of a relationship fails at its first undeclared end. -/
theorem relationshipStatement_eq_error_iff {strategy : Strategy} :
    Generator.relationshipStatement ⟨m.nodes, rs, sizes⟩ strategy r = .error e ↔
      (m.undeclaredEnds r).head? = some e := by
  have hhead : (m.undeclaredEnds r).head? =
      (m.undeclaredEnd? r .source).or (m.undeclaredEnd? r .target) := by
    unfold Model.undeclaredEnds
    cases hs : m.undeclaredEnd? r .source <;> cases ht : m.undeclaredEnd? r .target <;>
      simp [hs, ht]
  unfold Generator.relationshipStatement
  rw [hhead, bind_eq_error, Option.or_eq_some_iff]
  constructor
  · rintro (hsource | ⟨source, hsource, hrest⟩)
    · exact .inl (endpoint_eq_error_iff.1 hsource)
    · rcases bind_eq_error.1 hrest with htarget | ⟨target, -, hrest⟩
      · refine .inr ⟨Option.eq_none_iff_forall_ne_some.2 fun e' he' => ?_,
          endpoint_eq_error_iff.1 htarget⟩
        exact nomatch hsource.symm.trans (endpoint_eq_error_iff.2 he')
      · cases hrest
  · rintro (hsource | ⟨hsource, htarget⟩)
    · exact .inl (endpoint_eq_error_iff.2 hsource)
    · cases hend : Generator.endpoint ⟨m.nodes, rs, sizes⟩ r r.source with
      | error e' => exact nomatch hsource.symm.trans (endpoint_eq_error_iff.1 hend)
      | ok source =>
        exact .inr ⟨source, rfl, bind_eq_error.2 (.inl (endpoint_eq_error_iff.2 htarget))⟩

/-- **The statements of the relationships fail at the first end that the report is about.** -/
theorem mapM_relationshipStatement_eq_error_iff (a : AllowedColumns) {strategy : Strategy} :
    m.relationships.mapM (Generator.relationshipStatement ⟨m.nodes, rs, sizes⟩ strategy) =
        .error e ↔
      (validate m a).findSome? Violation.undeclared? = some e := by
  rw [← List.head?_filterMap, filterMap_undeclared?]
  exact mapM_eq_error_iff fun r e => relationshipStatement_eq_error_iff

end

/-- A report is about an end exactly when it has a violation of that kind. -/
theorem exists_undeclared?_iff {vs : List Violation} :
    (∃ e, vs.findSome? Violation.undeclared? = some e) ↔
      ∃ type role label, .unknownEndpoint type role label ∈ vs := by
  constructor
  · rintro ⟨e, he⟩
    obtain ⟨v, hv, hundeclared⟩ := List.exists_of_findSome?_eq_some he
    cases v with
    | unknownEndpoint type role label => exact ⟨type, role, label, hv⟩
    | columnMissing | uniqueColumnMissing | missingNodeKey | nameCollision | endpointKeyMissing
    | unknownSource => cases hundeclared
  · rintro ⟨type, role, label, hv⟩
    exact Option.isSome_iff_exists.1 (List.findSome?_isSome_iff.2 ⟨_, hv, rfl⟩)

/-! ## Statements of a valid model -/

/-- The statement that loads an entity. -/
def Cypher.Generator.statement (g : Generator) (strategy : Strategy) :
    Entity → Except UndeclaredEndpoint String
  | .node n => .ok (g.nodeStatement strategy n)
  | .relationship r => g.relationshipStatement strategy r

theorem mapM_statement (m : Model) (strategy : Strategy) (sizes : BatchSizes) :
    m.entities.mapM ((Generator.ofModel m sizes).statement strategy) =
      (do
        let relationships ← (Generator.ofModel m sizes).relationshipStatements strategy
        return (Generator.ofModel m sizes).nodeStatements strategy ++ relationships) := by
  have hnodes : (m.nodes.map Entity.node).mapM ((Generator.ofModel m sizes).statement strategy) =
      .ok ((Generator.ofModel m sizes).nodeStatements strategy) := by
    rw [List.mapM_map]
    exact List.mapM_pure
  unfold Model.entities
  rw [List.mapM_append, hnodes, List.mapM_map]
  rfl

/-- **The script of a model** is that of the statements of its entities, in their order. -/
theorem ingestionScript_eq_ok {strategy : Strategy} {sizes : BatchSizes} {statements : List String}
    (h : List.Forall₂ (fun e s => (Generator.ofModel m sizes).statement strategy e = .ok s)
      m.entities statements) :
    ingestionScript m strategy sizes = .ok (joinStatements statements) := by
  have hstatements := mapM_eq_ok_iff.2 h
  rw [mapM_statement] at hstatements
  obtain ⟨relationships, hrelationships, hall⟩ := bind_eq_ok.1 hstatements
  refine bind_eq_ok.2 ⟨relationships, hrelationships, ?_⟩
  cases hall
  rfl

/-- A statement runs lines for every row: of a batch that it is given, or of a staged file that it
reads in batches of a size. -/
inductive Cypher.RunsLines (source : String) (size : Nat) (lines : List String) :
    Strategy → String → Prop where
  | standard : RunsLines source size lines .standard
      ("WITH $rows AS rows\nUNWIND rows AS row\n" ++ "\n".intercalate lines)
  | loadCsv : RunsLines source size lines .loadCsv
      ("LOAD CSV WITH HEADERS FROM " ++ fileLiteral source ++
        " AS row\nCALL \x7b\n    WITH row\n" ++ indent ("\n".intercalate lines) ++
        "\n\x7d IN TRANSACTIONS OF " ++ toString size ++ " ROWS")

theorem Cypher.runsLines_wrap {body lines : List String} (hbody : body = lines)
    (strategy : Strategy) (source : String) (size : Nat) :
    RunsLines source size lines strategy (wrap strategy source size body) := by
  subst hbody
  cases strategy with
  | standard =>
    have hheader : "WITH $rows AS rows\nUNWIND rows AS row\n" = rowsHeader ++ "\n" := by decide
    have hstatement : RunsLines source size body .standard
        ("WITH $rows AS rows\nUNWIND rows AS row\n" ++ "\n".intercalate body) := .standard
    rw [hheader] at hstatement
    exact hstatement
  | loadCsv =>
    have hrow : " AS row\nCALL \x7b\n" ++ (indentation ++ "WITH row\n") =
        " AS row\nCALL \x7b\n    WITH row\n" := by decide
    have htext : wrap .loadCsv source size body =
        "LOAD CSV WITH HEADERS FROM " ++ fileLiteral source ++
          " AS row\nCALL \x7b\n    WITH row\n" ++ indent ("\n".intercalate body) ++
          "\n\x7d IN TRANSACTIONS OF " ++ toString size ++ " ROWS" := by
      rw [← hrow]
      unfold wrap
      simp only [String.append_assoc]
    rw [htext]
    exact .loadCsv

/-- The pattern of a node with a key: properties, and the columns of the row that they are read
from. -/
def Cypher.keyPattern (var label : String) (key : List (String × String)) : String :=
  "(" ++ var ++ ":" ++ identifier label ++ " \x7b" ++
    ", ".intercalate (key.map fun p => identifier p.1 ++ ": row." ++ identifier p.2) ++ "\x7d)"

theorem Cypher.keyPattern_eq (var label : String) (key : List (String × String)) :
    keyPattern var label key =
      "(" ++ var ++ ":" ++ identifier label ++ " " ++ propertyMap key ++ ")" := by
  have hrow : ": " ++ "row." = ": row." := by decide
  have hopen : " " ++ "\x7b" = " \x7b" := by decide
  have hclose : "\x7d" ++ ")" = "\x7d)" := by decide
  simp only [keyPattern, propertyMap, rowColumn, ← hrow, ← hopen, ← hclose, String.append_assoc]

/-- A statement loads an entity of a model by its clauses: a node is merged on its key; a
relationship finds two nodes of the model by their keys and is merged between them. None of these
keys is empty, and the properties beside the key are set at the end. -/
inductive Cypher.LoadsByKeys (m : Model) (strategy : Strategy) (sizes : BatchSizes) :
    Entity → String → Prop where
  | node {n : Node} {statement : String}
    (key : ownColumns (Entity.node n).uniqueProperties ≠ [])
    (hruns : RunsLines n.sourceName sizes.nodes
      (("MERGE " ++ keyPattern "n" n.label (ownColumns (Entity.node n).uniqueProperties)) ::
        clauseLines (setOthers (.node n)))
      strategy statement) :
    LoadsByKeys m strategy sizes (.node n) statement
  | relationship {r : Relationship} {source target : Node} {statement : String}
    (hsource : m.node? r.source = some source) (htarget : m.node? r.target = some target)
    (sourceKey : endpointKey source r.sourceName ≠ [])
    (targetKey : endpointKey target r.sourceName ≠ [])
    (hruns : RunsLines r.sourceName sizes.relationships
      (("MATCH " ++ keyPattern "source" r.source (endpointKey source r.sourceName)) ::
        ("MATCH " ++ keyPattern "target" r.target (endpointKey target r.sourceName)) ::
        mergeRelationship r :: clauseLines (setOthers (.relationship r)))
      strategy statement) :
    LoadsByKeys m strategy sizes (.relationship r) statement

theorem Cypher.nodeBody_eq (n : Node) : nodeBody n =
    ("MERGE " ++ keyPattern "n" n.label (ownColumns (Entity.node n).uniqueProperties)) ::
      clauseLines (setOthers (.node n)) := by
  have hmerge : "MERGE (n:" = "MERGE " ++ ("(" ++ ("n" ++ ":")) := by decide
  rw [nodeBody, keyPattern_eq, hmerge, keyMap]
  simp only [String.append_assoc]

theorem Cypher.matchEndpoint_eq (var : String) (n : Node) (source : String) :
    matchEndpoint var n source = "MATCH " ++ keyPattern var n.label (endpointKey n source) := by
  have hmatch : "MATCH (" = "MATCH " ++ "(" := by decide
  rw [matchEndpoint, keyPattern_eq, hmatch]
  simp only [String.append_assoc]

theorem Cypher.relationshipBody_eq (r : Relationship) (source target : Node) :
    relationshipBody r source target =
      ("MATCH " ++ keyPattern "source" source.label (endpointKey source r.sourceName)) ::
      ("MATCH " ++ keyPattern "target" target.label (endpointKey target r.sourceName)) ::
        mergeRelationship r :: clauseLines (setOthers (.relationship r)) := by
  rw [relationshipBody, matchEndpoint_eq, matchEndpoint_eq]
  rfl

theorem Model.Fits.uniqueProperties_ne_nil (h : m.Fits a) {n : Node} (hn : n ∈ m.nodes) :
    (Entity.node n).uniqueProperties ≠ [] := by
  obtain ⟨p, hp, hu⟩ := h.keys n hn
  exact List.ne_nil_of_mem (Entity.mem_uniqueProperties.2 ⟨hp, hu⟩)

/-- Every end is found, with a key. -/
theorem Model.Fits.exists_end (h : m.Fits a) {r : Relationship} (hr : r ∈ m.relationships)
    (role : EndpointRole) : ∃ n, m.node? (r.endLabel role) = some n ∧ n.label = r.endLabel role ∧
      endpointKey n r.sourceName ≠ [] := by
  obtain ⟨n, hn, hlabel⟩ := h.endpoints r hr role
  refine ⟨n, Model.node?_eq_some_iff.2 ⟨hn, hlabel⟩, hlabel, fun hnil => ?_⟩
  exact h.uniqueProperties_ne_nil hn (List.map_eq_nil_iff.1 hnil)

/-- **Every entity of a valid model has a statement**, and it finds nodes by keys. -/
theorem Model.Fits.exists_statement (h : m.Fits a) (strategy : Strategy) (sizes : BatchSizes)
    {e : Entity} (he : e ∈ m.entities) :
    ∃ s, (Generator.ofModel m sizes).statement strategy e = .ok s ∧
      LoadsByKeys m strategy sizes e s := by
  rcases Model.mem_entities.1 he with ⟨n, hn, rfl⟩ | ⟨r, hr, rfl⟩
  · have hruns := runsLines_wrap (nodeBody_eq n) strategy n.sourceName sizes.nodes
    refine ⟨_, rfl, .node (fun hnil => ?_) hruns⟩
    exact h.uniqueProperties_ne_nil hn (List.map_eq_nil_iff.1 hnil)
  · obtain ⟨source, hsource, hslabel, hskey⟩ := h.exists_end hr .source
    obtain ⟨target, htarget, htlabel, htkey⟩ := h.exists_end hr .target
    have hstatement := relationshipStatement_eq (g := Generator.ofModel m sizes)
      (endpoint_eq_ok_iff.2 (Model.node?_eq_some_iff.1 hsource))
      (endpoint_eq_ok_iff.2 (Model.node?_eq_some_iff.1 htarget)) strategy
    have hbody := relationshipBody_eq r source target
    rw [hslabel, htlabel] at hbody
    have hruns := runsLines_wrap hbody strategy r.sourceName sizes.relationships
    exact ⟨_, hstatement, .relationship hsource htarget hskey htkey hruns⟩

end GraphIngest
