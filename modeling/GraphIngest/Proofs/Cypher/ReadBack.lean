import GraphIngest.Proofs.Cypher.Reader
import GraphIngest.Proofs.Cypher.Reads

/-!
# Statements read back

A statement for batches of rows says what it loads: its labels and types, and which property comes
from which column, in order. No name can break out of its place in the text, whatever its characters
are.

* `readNodeLoad_nodeStatement`, `readRelationshipLoad_text` — the statement of a node, and that of a
  relationship between two nodes;
* `standard_statements_read_back` — all statements of a generator.
-/

namespace GraphIngest.Cypher

/-! ## What a statement says -/

/-- What the statement of a node loads: pairs of properties and columns. -/
structure NodeLoad where
  label : String
  key : List (String × String)
  others : List (String × String)
  deriving DecidableEq, Repr

/-- What the pattern of an end finds. -/
structure EndPattern where
  label : String
  key : List (String × String)
  deriving DecidableEq, Repr

/-- What the statement of a relationship loads. -/
structure RelationshipLoad where
  source : EndPattern
  target : EndPattern
  type : String
  key : List (String × String)
  others : List (String × String)
  deriving DecidableEq, Repr

/-- Reads the lines that bind a batch of rows. -/
def readRowsHeader (cs : List Char) : Option (List Char) :=
  readText "WITH $rows AS rows\nUNWIND rows AS row\n" cs

/-- Reads the statement of a node up to its end. -/
def readNodeLoad (statement : String) : Option NodeLoad := do
  let cs ← readRowsHeader statement.toList
  let cs ← readText "MERGE (n:" cs
  let (label, cs) ← readIdentifier cs
  let cs ← readText " " cs
  let (key, cs) ← readMap cs
  let cs ← readText ")" cs
  let others ← readSet "n" cs
  return ⟨label, key, others⟩

/-- Reads the line that finds an end of a relationship. -/
def readEnd (var : String) (cs : List Char) : Option (EndPattern × List Char) := do
  let cs ← readText "MATCH (" cs
  let cs ← readText var cs
  let cs ← readText ":" cs
  let (label, cs) ← readIdentifier cs
  let cs ← readText " " cs
  let (key, cs) ← readMap cs
  let cs ← readText ")\n" cs
  return (⟨label, key⟩, cs)

/-- Reads the key of a relationship, which may be left out. -/
def readKey (cs : List Char) : Option (List (String × String) × List Char) :=
  match readText " " cs with
  | some cs => readMap cs
  | none => some ([], cs)

/-- Reads the statement of a relationship up to its end. -/
def readRelationshipLoad (statement : String) : Option RelationshipLoad := do
  let cs ← readRowsHeader statement.toList
  let (source, cs) ← readEnd "source" cs
  let (target, cs) ← readEnd "target" cs
  let cs ← readText "MERGE (source)-[r:" cs
  let (type, cs) ← readIdentifier cs
  let (key, cs) ← readKey cs
  let cs ← readText "]->(target)" cs
  let others ← readSet "r" cs
  return ⟨source, target, type, key, others⟩

/-! ## Clauses -/

theorem setClause_ne_empty {pairs : List (String × String)} (hne : pairs ≠ []) (var : String) :
    setClause var pairs ≠ "" := by
  rw [setClause_eq hne]
  intro h
  have hlist := congrArg String.toList h
  rw [String.toList_append] at hlist
  cases hlist

/-- A clause that sets properties stands on a line of its own behind the one before it. -/
theorem toList_clauseLines (clause var : String) (pairs : List (String × String)) :
    ("\n".intercalate (clause :: clauseLines (setClause var pairs))).toList =
      clause.toList ++
        if pairs = [] then [] else "\n".toList ++ (setClause var pairs).toList := by
  unfold clauseLines
  split
  · rename_i hempty
    have hnil : pairs = [] := Classical.byContradiction fun hne => setClause_ne_empty hne var hempty
    rw [if_pos hnil, List.append_nil, String.intercalate_singleton]
  · rename_i hset
    have hne : pairs ≠ [] := by
      rintro rfl
      exact hset rfl
    rw [if_neg hne, String.intercalate_cons_cons, String.intercalate_singleton,
      String.toList_append, String.toList_append, List.append_assoc]

theorem toList_rowsHeader :
    rowsHeader.toList ++ "\n".toList = "WITH $rows AS rows\nUNWIND rows AS row\n".toList := rfl

/-! ## Nodes -/

theorem toList_nodeBody (n : Node) :
    ("\n".intercalate (nodeBody n)).toList =
      "MERGE (n:".toList ++ ((identifier n.label).toList ++ (" ".toList ++
        ((keyMap (.node n)).toList ++ (")".toList ++
          if ownColumns (Entity.node n).otherProperties = [] then []
          else "\n".toList ++ (setOthers (.node n)).toList)))) := by
  unfold nodeBody
  simp only [String.toList_append, setOthers, variableOf, toList_clauseLines, List.append_assoc]

theorem toList_nodeStatement (g : Generator) (n : Node) :
    (g.nodeStatement .standard n).toList =
      "WITH $rows AS rows\nUNWIND rows AS row\n".toList ++ ("MERGE (n:".toList ++
        ((identifier n.label).toList ++ (" ".toList ++ ((keyMap (.node n)).toList ++ (")".toList ++
          if ownColumns (Entity.node n).otherProperties = [] then []
          else "\n".toList ++ (setOthers (.node n)).toList))))) := by
  unfold Generator.nodeStatement wrap
  rw [← toList_rowsHeader, ← toList_nodeBody]
  simp only [String.toList_append]

/-- **The statement of a node says what it loads.** -/
theorem readNodeLoad_nodeStatement (g : Generator) (n : Node) :
    readNodeLoad (g.nodeStatement .standard n) =
      some ⟨n.label, ownColumns (Entity.node n).uniqueProperties,
        ownColumns (Entity.node n).otherProperties⟩ := by
  unfold readNodeLoad readRowsHeader
  rw [toList_nodeStatement]
  unfold keyMap setOthers variableOf
  simp only [readText_append, readIdentifier_identifier _ (separates_space _), readMap_propertyMap,
    readSet_setClause, bind, Option.bind, pure]

/-! ## Relationships -/

/-- The line of an end says which node it finds. -/
theorem readEnd_matchEndpoint (var : String) (n : Node) (source : String) (rest : List Char) :
    readEnd var ((matchEndpoint var n source).toList ++ ("\n".toList ++ rest)) =
      some (⟨n.label, endpointKey n source⟩, rest) := by
  have htext : (matchEndpoint var n source).toList ++ ("\n".toList ++ rest) =
      "MATCH (".toList ++ (var.toList ++ (":".toList ++ ((identifier n.label).toList ++
        (" ".toList ++ ((propertyMap (endpointKey n source)).toList ++
          (")\n".toList ++ rest)))))) := by
    unfold matchEndpoint
    simp only [String.toList_append, List.append_assoc]
    rfl
  rw [htext]
  unfold readEnd
  simp only [readText_append, readIdentifier_identifier _ (separates_space _), readMap_propertyMap,
    bind, Option.bind, pure]

/-- The key of a relationship as it stands behind the type. -/
def keyChars (r : Relationship) : List Char :=
  if (Entity.relationship r).keyNames.isEmpty then []
  else " ".toList ++ (keyMap (.relationship r)).toList

theorem stops_keyChars (r : Relationship) (rest : List Char) :
    Stops extendsName (keyChars r ++ ("]->(target)".toList ++ rest)) := by
  unfold keyChars
  split
  · exact stops_cons.2 (by decide)
  · rw [List.append_assoc]
    exact separates_space _

theorem readKey_keyChars (r : Relationship) (rest : List Char) :
    readKey (keyChars r ++ ("]->(target)".toList ++ rest)) =
      some (ownColumns (Entity.relationship r).uniqueProperties, "]->(target)".toList ++ rest) := by
  unfold readKey
  by_cases hkey : (Entity.relationship r).keyNames.isEmpty = true
  · have hnil : (Entity.relationship r).uniqueProperties = [] := by
      simpa [Entity.keyNames] using hkey
    have hspace : readText " " ("]->(target)".toList ++ rest) = none :=
      readText_of_head_ne rfl (by decide)
    rw [keyChars, if_pos hkey, List.nil_append, hspace, hnil]
    rfl
  · rw [keyChars, if_neg hkey, List.append_assoc, readText_append]
    exact readMap_propertyMap _ _

theorem toList_mergeRelationship (r : Relationship) :
    (mergeRelationship r).toList =
      "MERGE (source)-[r:".toList ++ ((identifier r.type).toList ++
        (keyChars r ++ "]->(target)".toList)) := by
  unfold mergeRelationship keyChars
  by_cases hkey : (Entity.relationship r).keyNames.isEmpty = true
  · simp only [if_pos hkey, String.toList_append, List.append_assoc]
    rfl
  · simp only [if_neg hkey, String.toList_append, List.append_assoc]

theorem toList_relationshipBody (r : Relationship) (source target : Node) :
    ("\n".intercalate (relationshipBody r source target)).toList =
      (matchEndpoint "source" source r.sourceName).toList ++ ("\n".toList ++
        ((matchEndpoint "target" target r.sourceName).toList ++ ("\n".toList ++
          ("MERGE (source)-[r:".toList ++ ((identifier r.type).toList ++
            (keyChars r ++ ("]->(target)".toList ++
              if ownColumns (Entity.relationship r).otherProperties = [] then []
              else "\n".toList ++ (setOthers (.relationship r)).toList))))))) := by
  unfold relationshipBody setOthers variableOf
  simp only [List.cons_append, List.nil_append, String.intercalate_cons_cons,
    String.toList_append, toList_clauseLines, toList_mergeRelationship, List.append_assoc]

theorem toList_relationship (r : Relationship) (source target : Node) (size : Nat) :
    (wrap .standard r.sourceName size (relationshipBody r source target)).toList =
      "WITH $rows AS rows\nUNWIND rows AS row\n".toList ++
        ((matchEndpoint "source" source r.sourceName).toList ++ ("\n".toList ++
          ((matchEndpoint "target" target r.sourceName).toList ++ ("\n".toList ++
            ("MERGE (source)-[r:".toList ++ ((identifier r.type).toList ++
              (keyChars r ++ ("]->(target)".toList ++
                if ownColumns (Entity.relationship r).otherProperties = [] then []
                else "\n".toList ++ (setOthers (.relationship r)).toList)))))))) := by
  unfold wrap
  rw [← toList_rowsHeader, ← toList_relationshipBody]
  simp only [String.toList_append]

/-- **The statement of a relationship says what it loads**, between any two nodes. -/
theorem readRelationshipLoad_text (r : Relationship) (source target : Node) (size : Nat) :
    readRelationshipLoad (wrap .standard r.sourceName size (relationshipBody r source target)) =
      some ⟨⟨source.label, endpointKey source r.sourceName⟩,
        ⟨target.label, endpointKey target r.sourceName⟩, r.type,
        ownColumns (Entity.relationship r).uniqueProperties,
        ownColumns (Entity.relationship r).otherProperties⟩ := by
  unfold readRelationshipLoad readRowsHeader
  rw [toList_relationship]
  unfold setOthers variableOf
  simp only [readText_append, readEnd_matchEndpoint,
    readIdentifier_identifier _ (stops_keyChars r _), readKey_keyChars, readSet_setClause, bind,
    Option.bind, pure]

/-! ## All statements of a generator -/

theorem find?_isSome {ns : List Node} {label : String} (h : ∃ n ∈ ns, n.label = label) :
    ∃ n, ns.find? (·.label == label) = some n ∧ n.label = label := by
  obtain ⟨n, hn, hlabel⟩ := h
  have hsome : (ns.find? (·.label == label)).isSome := by
    rw [List.find?_isSome]
    exact ⟨n, hn, by simpa using hlabel⟩
  obtain ⟨found, hfound⟩ := Option.isSome_iff_exists.1 hsome
  exact ⟨found, hfound, by simpa using List.find?_some hfound⟩

theorem endpoint_of_find? {g : Generator} {label : String} {n : Node}
    (h : g.nodes.find? (·.label == label) = some n) (r : Relationship) :
    g.endpoint r label = .ok n := by
  unfold Generator.endpoint
  rw [h]

/-- **Statements for batches of rows can be read back.** From the statement of a node a reader that
knows only names, words and marks recovers the label and the pairs of properties and columns, those
of the key and the others, in order. From that of a relationship whose ends are nodes of the
generator it recovers both labels with the keys of the ends, the type and the two lists of pairs. -/
theorem standard_statements_read_back (g : Generator) :
    (∀ n : Node, readNodeLoad (g.nodeStatement .standard n) = some
      { label := n.label
        key := (n.properties.filter fun p => p.isUnique).map fun p => (p.name, p.column)
        others := (n.properties.filter fun p => !p.isUnique).map fun p => (p.name, p.column) }) ∧
    ∀ r : Relationship, (∃ n ∈ g.nodes, n.label = r.source) →
      (∃ n ∈ g.nodes, n.label = r.target) →
      ∃ source target statement,
        g.nodes.find? (·.label == r.source) = some source ∧
        g.nodes.find? (·.label == r.target) = some target ∧
        g.relationshipStatement .standard r = .ok statement ∧
        readRelationshipLoad statement = some
          { source := ⟨r.source, (source.properties.filter fun p => p.isUnique).map fun p =>
              (p.name, p.columnFor source.sourceName r.sourceName)⟩
            target := ⟨r.target, (target.properties.filter fun p => p.isUnique).map fun p =>
              (p.name, p.columnFor target.sourceName r.sourceName)⟩
            type := r.type
            key := (r.properties.filter fun p => p.isUnique).map fun p => (p.name, p.column)
            others := (r.properties.filter fun p => !p.isUnique).map fun p =>
              (p.name, p.column) } := by
  refine ⟨fun n => readNodeLoad_nodeStatement g n, fun r hs ht => ?_⟩
  obtain ⟨source, hsource, hslabel⟩ := find?_isSome hs
  obtain ⟨target, htarget, htlabel⟩ := find?_isSome ht
  have hstatement := relationshipStatement_eq (endpoint_of_find? hsource r)
    (endpoint_of_find? htarget r) .standard
  refine ⟨source, target, _, hsource, htarget, hstatement, ?_⟩
  rw [readRelationshipLoad_text, hslabel, htlabel]
  rfl

/-- A node whose names hold what stands between names in a statement. -/
def hostileNode : Node where
  label := "a\x60) \x7b"
  properties := [⟨"", "x, y: row.z", none, "str", true⟩, ⟨"b\nSET n", "\x60\x60", none, "", false⟩]
  sourceName := "a.csv"

/-- A relationship from that node to itself. -/
def hostileRelationship : Relationship where
  type := "]->("
  properties := []
  source := hostileNode.label
  target := hostileNode.label
  sourceName := "b.csv"

theorem standard_statements_read_back_hostile :
    (∃ n ∈ [hostileNode], n.label = hostileNode.label) ∧
    ∃ statement,
      Generator.relationshipStatement ⟨[hostileNode], [], .default⟩ .standard hostileRelationship =
        .ok statement ∧
      readRelationshipLoad statement = some
        ⟨⟨"a\x60) \x7b", [("", "x, y: row.z")]⟩, ⟨"a\x60) \x7b", [("", "x, y: row.z")]⟩,
          "]->(", [], []⟩ := by
  have hend : ∃ n ∈ [hostileNode], n.label = hostileNode.label :=
    ⟨hostileNode, List.mem_singleton_self _, rfl⟩
  obtain ⟨source, target, statement, hsource, htarget, hstatement, hread⟩ :=
    (standard_statements_read_back ⟨[hostileNode], [], .default⟩).2 hostileRelationship hend hend
  have hs : source = hostileNode := by simpa [hostileRelationship] using hsource.symm
  have ht : target = hostileNode := by simpa [hostileRelationship] using htarget.symm
  subst hs ht
  exact ⟨hend, statement, hstatement, hread⟩

end GraphIngest.Cypher
