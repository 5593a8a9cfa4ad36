import GraphIngest.Proofs.Cypher.Indented
import GraphIngest.Proofs.Cypher.ReadBack

/-!
# The two strategies

A statement that reads a staged file runs, for every row, the clauses of the statement for batches
of rows, indented. Indenting goes by the lines of the finished text, so it also goes into names.

* `sameLoad_node`, `sameLoad_relationship` — the clauses in the two statements of a node, and of a
  relationship between two nodes, have the same tokens exactly when no written name has a line feed;
* `accepted_strategies` — so it is for all entities of an accepted model;
* `strategies_differ` — a column with a line feed in its name becomes another column.
-/

namespace GraphIngest.Cypher

/-! ## The two statements -/

/-- What stands in front of the clauses that a call runs for every row of a staged file. -/
def callHead (source : String) : String :=
  "LOAD CSV WITH HEADERS FROM " ++ fileLiteral source ++ " AS row\nCALL \x7b\n" ++ indentation ++
    "WITH row\n"

/-- What stands behind them. -/
def callFoot (size : Nat) : String := "\n\x7d IN TRANSACTIONS OF " ++ toString size ++ " ROWS"

/-- A name without a line feed. -/
def OneLine (name : String) : Prop := '\n' ∉ name.toList

instance (name : String) : Decidable (OneLine name) := inferInstanceAs (Decidable ('\n' ∉ _))

/-- The clauses behind the header of the first statement and those in the call of the second have
the same tokens up to the line ends within names, and the same ones exactly when no name of the list
has a line feed. -/
def SameLoad (source : String) (size : Nat) (names : List String) (standard loadCsv : String) :
    Prop :=
  ∃ body block : String,
    standard = rowsHeader ++ "\n" ++ body ∧
    loadCsv = callHead source ++ block ++ callFoot size ∧
    tokens block.toList = (tokens body.toList).map Token.reindented ∧
    (tokens block.toList = tokens body.toList ↔ ∀ name ∈ names, OneLine name)

/-! ## Texts whose tokens are left alone -/

/-- Indenting changes no token of the text. -/
def Fixed (cs : List Char) : Prop := ∀ t ∈ tokens cs, t.reindented = t

variable {rest : List Char}

theorem fixed_iff {cs : List Char} : Fixed cs ↔ (tokens cs).map Token.reindented = tokens cs := by
  have hmap : (tokens cs).map Token.reindented = (tokens cs).map id ↔ Fixed cs := List.map_inj_left
  rw [← hmap, List.map_id]

theorem fixed_nil : Fixed [] := by
  intro t ht
  rw [tokens_nil] at ht
  cases ht

/-- A text that closes has only words and marks. -/
theorem reindented_of_closes {text : List Char} (h : closes text = true) :
    ∀ t ∈ tokens text, t.reindented = t := by
  fun_induction tokens text with
  | case1 => exact List.forall_mem_nil _
  | case2 c cs hc ih =>
    exact List.forall_mem_cons.2 ⟨rfl, ih (closes_dropWhile (Bool.and_eq_true_iff.1 h).2)⟩
  | case3 => simp [closes] at h
  | case4 => simp [closes] at h
  | case5 c cs hpart hquote hblank ih => exact ih (Bool.and_eq_true_iff.1 h).2
  | case6 c cs hpart hquote hblank ih =>
    exact List.forall_mem_cons.2 ⟨rfl, ih (Bool.and_eq_true_iff.1 h).2⟩

theorem fixed_append {text : String} (h : closes text.toList = true) (rest : List Char) :
    Fixed (text.toList ++ rest) ↔ Fixed rest := by
  unfold Fixed
  rw [tokens_append h, List.forall_mem_append]
  exact and_iff_right (reindented_of_closes h)

theorem fixed_identifier (name : String) (h : Stops extendsName rest) :
    Fixed ((identifier name).toList ++ rest) ↔ OneLine name ∧ Fixed rest := by
  unfold Fixed OneLine
  rw [tokens_identifier name h, List.forall_mem_cons, reindented_nameToken_iff]

/-! ### Pairs -/

/-- Neither the properties nor the columns have a line feed. -/
def OneLinePairs (pairs : List (String × String)) : Prop :=
  ∀ p ∈ pairs, OneLine p.1 ∧ OneLine p.2

theorem oneLinePairs_nil : OneLinePairs [] := List.forall_mem_nil _

theorem oneLinePairs_cons (p : String × String) (pairs : List (String × String)) :
    OneLinePairs (p :: pairs) ↔ (OneLine p.1 ∧ OneLine p.2) ∧ OneLinePairs pairs :=
  List.forall_mem_cons

variable {before middle : String}

theorem fixed_pairText (hbefore : closes before.toList = true) (hmiddle : Separates middle)
    (hcloses : closes middle.toList = true) (p : String × String) (h : Stops extendsName rest) :
    Fixed ((pairText before middle p).toList ++ rest) ↔
      (OneLine p.1 ∧ OneLine p.2) ∧ Fixed rest := by
  rw [toList_pairText, fixed_append hbefore, fixed_identifier _ (hmiddle _), fixed_append hcloses,
    fixed_append (by decide), fixed_identifier _ h, and_assoc]

theorem fixed_pairsText (hbefore : closes before.toList = true) (hmiddle : Separates middle)
    (hcloses : closes middle.toList = true) (pairs : List (String × String))
    (h : Stops extendsName rest) :
    Fixed ((pairsText before middle pairs).toList ++ rest) ↔ OneLinePairs pairs ∧ Fixed rest := by
  induction pairs with
  | nil =>
    have hempty : (pairsText before middle []).toList ++ rest = rest := rfl
    rw [hempty, and_iff_right oneLinePairs_nil]
  | cons p pairs ih =>
    cases pairs with
    | nil =>
      rw [pairsText_singleton, fixed_pairText hbefore hmiddle hcloses p h, oneLinePairs_cons,
        and_iff_left oneLinePairs_nil]
    | cons q pairs =>
      rw [toList_pairsText_cons, List.append_assoc, List.append_assoc,
        fixed_pairText hbefore hmiddle hcloses p (separates_comma _), fixed_append (by decide), ih,
        oneLinePairs_cons p, and_assoc, and_assoc, and_assoc]

theorem fixed_propertyMap (pairs : List (String × String)) (rest : List Char) :
    Fixed ((propertyMap pairs).toList ++ rest) ↔ OneLinePairs pairs ∧ Fixed rest := by
  have hbrace : Separates "\x7d" := separates_of_head rfl (by decide)
  rw [propertyMap_eq, String.toList_append, String.toList_append, List.append_assoc,
    List.append_assoc, fixed_append (by decide),
    fixed_pairsText (by decide) separates_colon (by decide) pairs (hbrace _),
    fixed_append (by decide)]

/-- A clause that sets properties, with the line end in front of it. -/
theorem fixed_setOthers (e : Entity) :
    Fixed (if ownColumns e.otherProperties = [] then []
      else "\n".toList ++ (setOthers e).toList) ↔ OneLinePairs (ownColumns e.otherProperties) := by
  have hvariable : closes (variableOf e ++ ".").toList = true := by
    cases e with
    | node _ => exact (by decide : closes ("n" ++ ".").toList = true)
    | relationship _ => exact (by decide : closes ("r" ++ ".").toList = true)
  split
  · rename_i hnil
    rw [hnil]
    exact iff_of_true fixed_nil oneLinePairs_nil
  · rename_i hne
    have hpairs := fixed_pairsText hvariable separates_equals (by decide)
      (ownColumns e.otherProperties) (stops_nil extendsName)
    rw [List.append_nil, and_iff_left fixed_nil] at hpairs
    rw [setOthers, setClause_eq hne, String.toList_append, fixed_append (by decide),
      fixed_append (by decide), hpairs]

/-! ### Bodies -/

theorem fixed_nodeBody (n : Node) :
    Fixed ("\n".intercalate (nodeBody n)).toList ↔
      OneLine n.label ∧ OneLinePairs (ownColumns (Entity.node n).uniqueProperties) ∧
        OneLinePairs (ownColumns (Entity.node n).otherProperties) := by
  rw [toList_nodeBody, fixed_append (by decide), fixed_identifier _ (separates_space _),
    fixed_append (by decide), keyMap, fixed_propertyMap, fixed_append (by decide), fixed_setOthers]

/-- The line of an end, for either of the two ends. -/
theorem fixed_matchEndpoint {var : String} (hvar : closes ("MATCH (" ++ var ++ ":").toList = true)
    (n : Node) (source : String) (rest : List Char) :
    Fixed ((matchEndpoint var n source).toList ++ rest) ↔
      (OneLine n.label ∧ OneLinePairs (endpointKey n source)) ∧ Fixed rest := by
  have htext : (matchEndpoint var n source).toList ++ rest =
      ("MATCH (" ++ var ++ ":").toList ++ ((identifier n.label).toList ++ (" ".toList ++
        ((propertyMap (endpointKey n source)).toList ++ (")".toList ++ rest)))) := by
    unfold matchEndpoint
    simp only [String.toList_append, List.append_assoc]
  rw [htext, fixed_append hvar, fixed_identifier _ (separates_space _), fixed_append (by decide),
    fixed_propertyMap, fixed_append (by decide), and_assoc]

theorem fixed_keyChars (r : Relationship) (rest : List Char) :
    Fixed (keyChars r ++ rest) ↔
      OneLinePairs (ownColumns (Entity.relationship r).uniqueProperties) ∧ Fixed rest := by
  unfold keyChars
  split
  · rename_i hkey
    have hnil : (Entity.relationship r).uniqueProperties = [] := by
      simpa [Entity.keyNames] using hkey
    rw [hnil, List.nil_append]
    exact (and_iff_right oneLinePairs_nil).symm
  · rw [List.append_assoc, fixed_append (by decide), keyMap, fixed_propertyMap]

theorem fixed_relationshipBody (r : Relationship) (source target : Node) :
    Fixed ("\n".intercalate (relationshipBody r source target)).toList ↔
      (OneLine source.label ∧ OneLinePairs (endpointKey source r.sourceName)) ∧
      (OneLine target.label ∧ OneLinePairs (endpointKey target r.sourceName)) ∧
      OneLine r.type ∧ OneLinePairs (ownColumns (Entity.relationship r).uniqueProperties) ∧
        OneLinePairs (ownColumns (Entity.relationship r).otherProperties) := by
  rw [toList_relationshipBody, fixed_matchEndpoint (by decide), fixed_append (by decide),
    fixed_matchEndpoint (by decide), fixed_append (by decide), fixed_append (by decide),
    fixed_identifier _ (stops_keyChars r _), fixed_keyChars, fixed_append (by decide),
    fixed_setOthers]

/-! ## Where bodies end -/

/-- The text ends within a line. -/
def EndsInLine (cs : List Char) : Prop := ∃ c, cs.getLast? = some c ∧ c ≠ '\n'

theorem endsInLine_append {cs : List Char} (h : EndsInLine cs) (ds : List Char) :
    EndsInLine (ds ++ cs) := by
  obtain ⟨c, hlast, hc⟩ := h
  refine ⟨c, ?_, hc⟩
  rw [List.getLast?_append, hlast, Option.some_or]

theorem endsInLine_identifier (name : String) : EndsInLine (identifier name).toList := by
  rw [toList_identifier]
  unfold identifierChars
  split
  · rename_i hplain
    have hne : name.toList ≠ [] := by
      intro hnil
      rw [hnil] at hplain
      cases hplain
    have hpart := isNamePart_of_isPlainName hplain _ (List.getLast_mem hne)
    refine ⟨_, List.getLast?_eq_some_getLast hne, fun hnewline => ?_⟩
    rw [hnewline] at hpart
    exact absurd hpart (by decide)
  · exact endsInLine_append ⟨backtick, rfl, by decide⟩ _

theorem endsInLine_pairsText {pairs : List (String × String)} (hne : pairs ≠ []) :
    EndsInLine (pairsText before middle pairs).toList := by
  have hpair : ∀ p, EndsInLine (pairText before middle p).toList := by
    intro p
    unfold pairText rowColumn
    simp only [String.toList_append]
    exact endsInLine_append (endsInLine_append (endsInLine_identifier p.2) _) _
  induction pairs with
  | nil => exact absurd rfl hne
  | cons p pairs ih =>
    cases pairs with
    | nil =>
      rw [pairsText_singleton]
      exact hpair p
    | cons q pairs =>
      rw [toList_pairsText_cons]
      exact endsInLine_append (endsInLine_append (ih (by simp)) _) _

/-- A body ends within a line when the clause in front of the one that sets properties does. -/
theorem endsInLine_clauses {clause : List Char} (h : EndsInLine clause) (e : Entity) :
    EndsInLine (clause ++ if ownColumns e.otherProperties = [] then []
      else "\n".toList ++ (setOthers e).toList) := by
  split
  · rw [List.append_nil]
    exact h
  · rename_i hne
    rw [setOthers, setClause_eq hne, String.toList_append]
    refine endsInLine_append (endsInLine_append (endsInLine_append ?_ _) _) _
    exact endsInLine_pairsText hne

theorem endsInLine_nodeBody (n : Node) : EndsInLine ("\n".intercalate (nodeBody n)).toList := by
  rw [toList_nodeBody]
  have hclause : EndsInLine ")".toList := ⟨')', rfl, by decide⟩
  have hclauses := endsInLine_clauses hclause (.node n)
  iterate 4 refine endsInLine_append ?_ _
  exact hclauses

theorem endsInLine_relationshipBody (r : Relationship) (source target : Node) :
    EndsInLine ("\n".intercalate (relationshipBody r source target)).toList := by
  rw [toList_relationshipBody]
  have hclause : EndsInLine "]->(target)".toList := ⟨')', rfl, by decide⟩
  have hclauses := endsInLine_clauses hclause (.relationship r)
  iterate 7 refine endsInLine_append ?_ _
  exact hclauses

/-! ## The clauses of both statements -/

/-- **Both statements around one body.** -/
theorem sameLoad_wrap {clauses : List String} {names : List String} (source : String) (size : Nat)
    (hends : EndsInLine ("\n".intercalate clauses).toList)
    (hnames : Fixed ("\n".intercalate clauses).toList ↔ ∀ name ∈ names, OneLine name) :
    SameLoad source size names (wrap .standard source size clauses)
      (wrap .loadCsv source size clauses) := by
  obtain ⟨c, hlast, hc⟩ := hends
  have hne : ("\n".intercalate clauses).toList ≠ [] := by
    intro hnil
    rw [hnil] at hlast
    cases hlast
  have hnewline : ("\n".intercalate clauses).toList.getLast? ≠ some '\n' := by
    rw [hlast]
    exact fun h => hc (Option.some.inj h)
  have htokens : tokens (indent ("\n".intercalate clauses)).toList =
      (tokens ("\n".intercalate clauses).toList).map Token.reindented := by
    rw [toList_indent hne hnewline, tokens_indentation, tokens_reindent]
  refine ⟨"\n".intercalate clauses, indent ("\n".intercalate clauses), rfl, ?_, htokens, ?_⟩
  · unfold wrap callHead callFoot
    simp only [String.append_assoc]
  · rw [htokens, ← fixed_iff, hnames]

/-- The names of properties and columns in pairs. -/
def pairNames (pairs : List (String × String)) : List String := pairs.flatMap fun p => [p.1, p.2]

/-- The names that the clauses of an entity write for the entity itself. -/
def entityNames (e : Entity) : List String :=
  e.name :: (pairNames (ownColumns e.uniqueProperties) ++ pairNames (ownColumns e.otherProperties))

/-- The names that the pattern of an end writes. -/
def endNames (n : Node) (source : String) : List String :=
  n.label :: pairNames (endpointKey n source)

/-- The names that the clauses of a relationship write, with those of its ends. -/
def relationshipNames (r : Relationship) (source target : Node) : List String :=
  endNames source r.sourceName ++ (endNames target r.sourceName ++ entityNames (.relationship r))

theorem forall_pairNames {pairs : List (String × String)} :
    (∀ name ∈ pairNames pairs, OneLine name) ↔ OneLinePairs pairs := by
  induction pairs with
  | nil => exact iff_of_true (List.forall_mem_nil _) oneLinePairs_nil
  | cons p pairs ih =>
    have hcons : pairNames (p :: pairs) = p.1 :: p.2 :: pairNames pairs := rfl
    rw [hcons, List.forall_mem_cons, List.forall_mem_cons, ih, oneLinePairs_cons, and_assoc]

theorem forall_entityNames {e : Entity} :
    (∀ name ∈ entityNames e, OneLine name) ↔
      OneLine e.name ∧ OneLinePairs (ownColumns e.uniqueProperties) ∧
        OneLinePairs (ownColumns e.otherProperties) := by
  unfold entityNames
  rw [List.forall_mem_cons, List.forall_mem_append, forall_pairNames, forall_pairNames]

theorem forall_endNames {n : Node} {source : String} :
    (∀ name ∈ endNames n source, OneLine name) ↔
      OneLine n.label ∧ OneLinePairs (endpointKey n source) := by
  unfold endNames
  rw [List.forall_mem_cons, forall_pairNames]

/-- **The two statements of a node.** -/
theorem sameLoad_node (g : Generator) (n : Node) :
    SameLoad n.sourceName g.batchSizes.nodes (entityNames (.node n))
      (g.nodeStatement .standard n) (g.nodeStatement .loadCsv n) := by
  refine sameLoad_wrap _ _ (endsInLine_nodeBody n) ?_
  rw [fixed_nodeBody, forall_entityNames]
  rfl

/-- **The two statements of a relationship**, between any two nodes. -/
theorem sameLoad_relationship (r : Relationship) (source target : Node) (size : Nat) :
    SameLoad r.sourceName size (relationshipNames r source target)
      (wrap .standard r.sourceName size (relationshipBody r source target))
      (wrap .loadCsv r.sourceName size (relationshipBody r source target)) := by
  refine sameLoad_wrap _ _ (endsInLine_relationshipBody r source target) ?_
  unfold relationshipNames
  rw [fixed_relationshipBody, List.forall_mem_append, List.forall_mem_append, forall_endNames,
    forall_endNames, forall_entityNames]
  rfl

/-! ## Accepted models -/

variable {m : Model} {a : AllowedColumns}

/-- **Both strategies load the same graph, but for line feeds in names.** The ends of every
relationship of an accepted model are found, so both of its statements are there, like those of
every node. Indenting changes the clauses only within quoted names: those of the two statements have
the same tokens exactly when no name that they write has a line feed. -/
theorem accepted_strategies {v : AcceptedModel} (h : accept m a = .ok v) (sizes : BatchSizes) :
    (∀ n ∈ m.nodes, SameLoad n.sourceName sizes.nodes (entityNames (.node n))
      ((Generator.ofModel m sizes).nodeStatement .standard n)
      ((Generator.ofModel m sizes).nodeStatement .loadCsv n)) ∧
    ∀ r ∈ m.relationships, ∃ source target standard loadCsv,
      (Generator.ofModel m sizes).endpoint r r.source = .ok source ∧
      (Generator.ofModel m sizes).endpoint r r.target = .ok target ∧
      (Generator.ofModel m sizes).relationshipStatement .standard r = .ok standard ∧
      (Generator.ofModel m sizes).relationshipStatement .loadCsv r = .ok loadCsv ∧
      SameLoad r.sourceName sizes.relationships (relationshipNames r source target) standard
        loadCsv := by
  obtain ⟨rfl, rfl⟩ := accept_eq_ok_iff.1 h
  have hfits := validate_eq_nil_iff.1 v.valid
  refine ⟨fun n _ => sameLoad_node _ n, fun r hr => ?_⟩
  obtain ⟨source, hsource⟩ := hfits.endpoint sizes hr .source
  obtain ⟨target, htarget⟩ := hfits.endpoint sizes hr .target
  exact ⟨source, target, _, _, hsource, htarget, relationshipStatement_eq hsource htarget .standard,
    relationshipStatement_eq hsource htarget .loadCsv, sameLoad_relationship r source target _⟩

/-- A model whose names hold what stands between names in a statement, on one line. -/
def marksModel : Model :=
  ⟨⟨[⟨"a\x60) \x7b",
      [⟨"id", "x, y: row.z", none, "str", true⟩, ⟨"\x60\x60", "b", none, "str", false⟩], "a.csv"⟩],
    [⟨"]->(", [], "a\x60) \x7b", "a\x60) \x7b", "a.csv"⟩]⟩, by decide⟩

/-- The columns of its file. -/
def marksColumns : AllowedColumns := .flat ["x, y: row.z", "b"]

theorem accepted_strategies_marks :
    (∃ v, accept marksModel marksColumns = .ok v) ∧
    (∀ n ∈ marksModel.nodes, ∃ body block : String,
      (Generator.ofModel marksModel .default).nodeStatement .standard n =
        rowsHeader ++ "\n" ++ body ∧
      (Generator.ofModel marksModel .default).nodeStatement .loadCsv n =
        callHead n.sourceName ++ block ++ callFoot 1000 ∧
      tokens block.toList = tokens body.toList) ∧
    ∀ r ∈ marksModel.relationships, ∃ body block : String,
      (Generator.ofModel marksModel .default).relationshipStatement .standard r =
        .ok (rowsHeader ++ "\n" ++ body) ∧
      (Generator.ofModel marksModel .default).relationshipStatement .loadCsv r =
        .ok (callHead r.sourceName ++ block ++ callFoot 500) ∧
      tokens block.toList = tokens body.toList := by
  have haccept : accept marksModel marksColumns = .ok ⟨marksModel, marksColumns, by decide⟩ :=
    accept_eq_ok_iff.2 ⟨rfl, rfl⟩
  obtain ⟨hnodes, hrelationships⟩ := accepted_strategies haccept .default
  refine ⟨⟨_, haccept⟩, fun n hn => ?_, fun r hr => ?_⟩
  · have hnames : ∀ n ∈ marksModel.nodes, ∀ name ∈ entityNames (.node n), OneLine name := by decide
    obtain ⟨body, block, hstandard, hload, -, hsame⟩ := hnodes n hn
    exact ⟨body, block, hstandard, hload, hsame.2 (hnames n hn)⟩
  · have hnames : ∀ r ∈ marksModel.relationships, ∀ source ∈ marksModel.nodes,
        ∀ target ∈ marksModel.nodes, ∀ name ∈ relationshipNames r source target, OneLine name := by
      decide
    obtain ⟨source, target, -, -, hsource, htarget, hstandard, hload, body, block, rfl, rfl, -,
      hsame⟩ := hrelationships r hr
    have hone := hnames r hr source (endpoint_eq_ok_iff.1 hsource).1 target
      (endpoint_eq_ok_iff.1 htarget).1
    exact ⟨body, block, hstandard, hload, hsame.2 hone⟩

/-- A node whose key comes from a column with a line feed in its name. -/
def brokenNode : Node := ⟨"A", [⟨"id", "a\nb", none, "str", true⟩], "file"⟩

/-- A model of that node alone. -/
def brokenModel : Model := ⟨⟨[brokenNode], []⟩, by decide⟩

/-- **The strategies differ**: the model is accepted, and the call reads another column than the
statement for batches of rows. -/
theorem strategies_differ :
    ∃ v body block,
      accept brokenModel (.flat ["a\nb"]) = .ok v ∧ brokenNode ∈ brokenModel.nodes ∧
      (Generator.ofModel brokenModel .default).nodeStatement .standard brokenNode =
        rowsHeader ++ "\n" ++ body ∧
      (Generator.ofModel brokenModel .default).nodeStatement .loadCsv brokenNode =
        callHead "file" ++ block ++ callFoot 1000 ∧
      tokens block.toList ≠ tokens body.toList := by
  have haccept : accept brokenModel (.flat ["a\nb"]) =
      .ok ⟨brokenModel, .flat ["a\nb"], by decide⟩ := accept_eq_ok_iff.2 ⟨rfl, rfl⟩
  have hnames : ¬ ∀ name ∈ entityNames (.node brokenNode), OneLine name := by decide
  obtain ⟨body, block, hstandard, hload, -, hsame⟩ :=
    sameLoad_node (Generator.ofModel brokenModel .default) brokenNode
  exact ⟨_, body, block, haccept, List.mem_singleton_self _, hstandard, hload, mt hsame.1 hnames⟩

end GraphIngest.Cypher
