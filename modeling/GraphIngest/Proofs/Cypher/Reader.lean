import GraphIngest.Cypher.Format
import GraphIngest.Proofs.Basic

/-!
# Names and pairs read back

A reader that goes through a statement from left to right. It knows how names are written, and the
words and marks between them, and nothing about the model that the statement was made from.

* `readIdentifier_identifier` — a written name is read as that name, whatever its characters are, in
  front of a text that does not go on with a name;
* `readPairs_pairsText` — written pairs of properties and columns are read as these pairs;
* `readMap_propertyMap`, `readSet_setClause` — so are the pairs of a map and of a clause.
-/

namespace GraphIngest.Cypher

/-! ## The reader -/

/-- Reads a fixed text. -/
def readText (text : String) (cs : List Char) : Option (List Char) :=
  if text.toList.isPrefixOf cs then some (cs.drop text.toList.length) else none

/-- Reads the name behind an opening backtick: two backticks are one of the name, and a single one
closes it. -/
def readQuoted : List Char → Option (List Char × List Char)
  | [] => none
  | [c] => if c = backtick then some ([], []) else none
  | c :: d :: rest =>
    if c = backtick then
      if d = backtick then (readQuoted rest).map fun r => (backtick :: r.1, r.2)
      else some ([], d :: rest)
    else (readQuoted (d :: rest)).map fun r => (c :: r.1, r.2)

/-- Reads a name: a quoted one, or the longest plain one. -/
def readIdentifier : List Char → Option (String × List Char)
  | [] => none
  | c :: cs =>
    if c = backtick then (readQuoted cs).map fun r => (String.ofList r.1, r.2)
    else if isNameStart c then
      some (String.ofList (c :: cs.takeWhile isNamePart), cs.dropWhile isNamePart)
    else none

/-- Reads a property and the column of the row that it comes from, with the text in front of the
property and the text between the two. -/
def readPair (before middle : String) (cs : List Char) :
    Option ((String × String) × List Char) := do
  let cs ← readText before cs
  let (property, cs) ← readIdentifier cs
  let cs ← readText middle cs
  let cs ← readText "row." cs
  let (column, cs) ← readIdentifier cs
  return ((property, column), cs)

/-- Reads one pair and, as long as a comma follows, the next ones. -/
def readPairs (before middle : String) : Nat → List Char →
    Option (List (String × String) × List Char)
  | 0, _ => none
  | fuel + 1, cs => do
    let (pair, cs) ← readPair before middle cs
    match readText ", " cs with
    | none => return ([pair], cs)
    | some cs =>
      let (pairs, cs) ← readPairs before middle fuel cs
      return (pair :: pairs, cs)

/-- Reads a map from properties to columns. No pair is empty, so there are fewer pairs than
characters. -/
def readMap (cs : List Char) : Option (List (String × String) × List Char) := do
  let cs ← readText "\x7b" cs
  match readText "\x7d" cs with
  | some cs => return ([], cs)
  | none =>
    let (pairs, cs) ← readPairs "" ": " cs.length cs
    let cs ← readText "\x7d" cs
    return (pairs, cs)

/-- Reads the clause that sets properties of a variable up to the end of a statement; where the
statement ends before it, nothing is set. -/
def readSet (var : String) (cs : List Char) : Option (List (String × String)) :=
  match cs with
  | [] => some []
  | cs => do
    let cs ← readText "\nSET " cs
    let (pairs, cs) ← readPairs (var ++ ".") " = " cs.length cs
    if cs.isEmpty then return pairs else none

/-! ## Fixed texts -/

theorem readText_append (text : String) (rest : List Char) :
    readText text (text.toList ++ rest) = some rest := by
  have hprefix : text.toList.isPrefixOf (text.toList ++ rest) = true :=
    List.isPrefixOf_iff_prefix.2 (List.prefix_append _ _)
  unfold readText
  rw [if_pos hprefix, List.drop_left]

/-- A text that begins differently is not read. -/
theorem readText_of_head_ne {text : String} {d c : Char} {ds cs : List Char}
    (htext : text.toList = d :: ds) (hne : c ≠ d) : readText text (c :: cs) = none := by
  unfold readText
  rw [htext, List.isPrefixOf, beq_false_of_ne hne.symm]
  rfl

/-! ## Names -/

/-- The characters that a name in front of them would go on with. -/
def extendsName (c : Char) : Bool := isNamePart c || c = backtick

variable {rest : List Char}

theorem stops_isNamePart (h : Stops extendsName rest) : Stops isNamePart rest := by
  intro c cs hcs
  have hc := h c cs hcs
  unfold extendsName at hc
  exact (Bool.or_eq_false_iff.1 hc).1

/-- No name goes on with this text. -/
def Separates (text : String) : Prop := ∀ rest, Stops extendsName (text.toList ++ rest)

theorem separates_of_head {text : String} {c : Char} {cs : List Char}
    (htext : text.toList = c :: cs) (hc : extendsName c = false) : Separates text := by
  intro rest
  rw [htext]
  exact stops_cons.2 hc

theorem separates_colon : Separates ": " := separates_of_head rfl (by decide)

theorem separates_equals : Separates " = " := separates_of_head rfl (by decide)

theorem separates_comma : Separates ", " := separates_of_head rfl (by decide)

theorem separates_space : Separates " " := separates_of_head rfl (by decide)

theorem isNameStart_backtick : isNameStart backtick = false := by decide

/-- The closing backtick is the first one that is not followed by another. -/
theorem readQuoted_close (h : Stops extendsName rest) :
    readQuoted (backtick :: rest) = some ([], rest) := by
  cases rest with
  | nil => rfl
  | cons c cs =>
    have hc : c ≠ backtick := by
      rintro rfl
      exact nomatch stops_cons.1 h
    rw [readQuoted, if_pos rfl, if_neg hc]

theorem readQuoted_backtick (cs : List Char) :
    readQuoted (backtick :: backtick :: cs) =
      (readQuoted cs).map fun r => (backtick :: r.1, r.2) := by
  rw [readQuoted, if_pos rfl, if_pos rfl]

theorem readQuoted_cons {c : Char} (hc : c ≠ backtick) (cs : List Char) :
    readQuoted (c :: cs) = (readQuoted cs).map fun r => (c :: r.1, r.2) := by
  cases cs with
  | nil => simp [readQuoted, hc]
  | cons d ds => rw [readQuoted, if_neg hc]

theorem readQuoted_doubleBackticks (name : List Char) (h : Stops extendsName rest) :
    readQuoted (doubleBackticks name ++ backtick :: rest) = some (name, rest) := by
  induction name with
  | nil => exact readQuoted_close h
  | cons c cs ih =>
    unfold doubleBackticks
    split
    · rename_i hc
      subst hc
      rw [List.cons_append, List.cons_append, readQuoted_backtick, ih, Option.map_some]
    · rename_i hc
      rw [List.cons_append, readQuoted_cons hc, ih, Option.map_some]

/-- The characters of a plain name. -/
theorem exists_cons_of_isPlainName {name : List Char} (h : isPlainName name = true) :
    ∃ c cs, name = c :: cs ∧ isNameStart c = true ∧ ∀ d ∈ cs, isNamePart d = true := by
  cases name with
  | nil => cases h
  | cons c cs =>
    obtain ⟨hstart, hparts⟩ := Bool.and_eq_true_iff.1 h
    exact ⟨c, cs, rfl, hstart, List.all_eq_true.1 hparts⟩

theorem toList_identifier (name : String) :
    (identifier name).toList = identifierChars name.toList :=
  String.toList_ofList

/-- **A written name is read as that name**, whatever its characters are. -/
theorem readIdentifier_identifier (name : String) (h : Stops extendsName rest) :
    readIdentifier ((identifier name).toList ++ rest) = some (name, rest) := by
  rw [toList_identifier]
  unfold identifierChars
  split
  · rename_i hplain
    obtain ⟨c, cs, hname, hstart, hcs⟩ := exists_cons_of_isPlainName hplain
    have hc : c ≠ backtick := by
      rintro rfl
      exact nomatch isNameStart_backtick.symm.trans hstart
    have hrest : Stops isNamePart rest := stops_isNamePart h
    rw [hname, List.cons_append, readIdentifier, if_neg hc, if_pos hstart,
      takeWhile_append_of_stops hcs hrest, dropWhile_append_of_stops hcs hrest, ← hname,
      String.ofList_toList]
  · have hquoted := readQuoted_doubleBackticks name.toList h
    rw [List.append_assoc, List.cons_append, List.singleton_append, readIdentifier, if_pos rfl,
      hquoted, Option.map_some, String.ofList_toList]

/-- A written name begins with a backtick or with a character that may begin a plain name. -/
theorem identifierChars_head (name : List Char) :
    ∃ c cs, identifierChars name = c :: cs ∧ (c = backtick ∨ isNameStart c = true) := by
  unfold identifierChars
  split
  · rename_i hplain
    obtain ⟨c, cs, hname, hstart, -⟩ := exists_cons_of_isPlainName hplain
    exact ⟨c, cs, hname, .inr hstart⟩
  · exact ⟨backtick, _, rfl, .inl rfl⟩

/-! ## Pairs -/

/-- A pair as it is written, with the text in front of the property and the text between the two. -/
def pairText (before middle : String) (p : String × String) : String :=
  before ++ identifier p.1 ++ middle ++ rowColumn p.2

/-- Pairs as they are written. -/
def pairsText (before middle : String) (pairs : List (String × String)) : String :=
  ", ".intercalate (pairs.map (pairText before middle))

theorem toList_pairText (before middle : String) (p : String × String) (rest : List Char) :
    (pairText before middle p).toList ++ rest =
      before.toList ++ ((identifier p.1).toList ++ (middle.toList ++ ("row.".toList ++
        ((identifier p.2).toList ++ rest)))) := by
  simp only [pairText, rowColumn, String.toList_append, List.append_assoc]

theorem pairsText_singleton (before middle : String) (p : String × String) :
    pairsText before middle [p] = pairText before middle p :=
  String.intercalate_singleton

theorem toList_pairsText_cons (before middle : String) (p q : String × String)
    (pairs : List (String × String)) :
    (pairsText before middle (p :: q :: pairs)).toList =
      (pairText before middle p).toList ++
        (", ".toList ++ (pairsText before middle (q :: pairs)).toList) := by
  simp only [pairsText, List.map_cons, String.intercalate_cons_cons, String.toList_append,
    List.append_assoc]

variable {before middle : String}

theorem readPair_pairText (hmiddle : Separates middle) (p : String × String)
    (hrest : Stops extendsName rest) :
    readPair before middle ((pairText before middle p).toList ++ rest) = some (p, rest) := by
  rw [toList_pairText]
  unfold readPair
  simp only [readText_append, readIdentifier_identifier _ (hmiddle _),
    readIdentifier_identifier _ hrest, bind, Option.bind, pure]

/-- **Written pairs are read as these pairs**, in front of a text that goes on neither with a name
nor with another pair. -/
theorem readPairs_pairsText (hmiddle : Separates middle) {pairs : List (String × String)}
    (hne : pairs ≠ []) {fuel : Nat} (hfuel : pairs.length ≤ fuel) (hrest : Stops extendsName rest)
    (hcomma : readText ", " rest = none) :
    readPairs before middle fuel ((pairsText before middle pairs).toList ++ rest) =
      some (pairs, rest) := by
  induction pairs generalizing fuel with
  | nil => exact absurd rfl hne
  | cons p pairs ih =>
    obtain ⟨fuel, rfl⟩ : ∃ n, fuel = n + 1 := ⟨fuel - 1, by simp at hfuel; omega⟩
    cases pairs with
    | nil =>
      rw [pairsText_singleton]
      unfold readPairs
      simp only [readPair_pairText hmiddle p hrest, hcomma, bind, Option.bind, pure]
    | cons q pairs =>
      have htail := ih (by simp) (by simpa using hfuel)
      rw [toList_pairsText_cons, List.append_assoc, List.append_assoc]
      unfold readPairs
      simp only [readPair_pairText hmiddle p (separates_comma _), readText_append, htail, bind,
        Option.bind, pure]

/-- No pair is empty. -/
theorem length_le_pairsText (before middle : String) (pairs : List (String × String)) :
    pairs.length ≤ (pairsText before middle pairs).toList.length := by
  have hpair : ∀ p, 1 ≤ (pairText before middle p).toList.length := by
    intro p
    have htext := toList_pairText before middle p []
    rw [List.append_nil] at htext
    have hrow : "row.".toList.length = 4 := rfl
    simp only [htext, List.length_append, hrow]
    omega
  induction pairs with
  | nil => exact Nat.zero_le _
  | cons p pairs ih =>
    cases pairs with
    | nil =>
      rw [pairsText_singleton]
      exact hpair p
    | cons q pairs =>
      have hp := hpair p
      simp only [List.length_cons] at ih
      simp only [toList_pairsText_cons, List.length_append, List.length_cons]
      omega

/-! ## Maps and clauses -/

theorem propertyMap_eq (pairs : List (String × String)) :
    propertyMap pairs = "\x7b" ++ pairsText "" ": " pairs ++ "\x7d" := by
  have hpair : pairText "" ": " = fun p => identifier p.1 ++ ": " ++ rowColumn p.2 := by
    funext p
    unfold pairText
    rw [String.empty_append]
  unfold propertyMap pairsText
  rw [hpair]

theorem setClause_eq {pairs : List (String × String)} (hne : pairs ≠ []) (var : String) :
    setClause var pairs = "SET " ++ pairsText (var ++ ".") " = " pairs := by
  unfold setClause
  rw [if_neg (by simpa using hne)]
  rfl

/-- Pairs do not begin with a closing brace. -/
theorem readText_brace_pairsText {pairs : List (String × String)} (hne : pairs ≠ [])
    (rest : List Char) :
    readText "\x7d" ((pairsText "" middle pairs).toList ++ rest) = none := by
  match pairs with
  | [] => exact absurd rfl hne
  | p :: pairs =>
    obtain ⟨c, cs, hcs, hc⟩ := identifierChars_head p.1.toList
    have hbrace : c ≠ '\x7d' := by
      rintro rfl
      rcases hc with hc | hc <;> exact absurd hc (by decide)
    have hbegin : ∀ more, ∃ tail,
        (pairText "" middle p).toList ++ more = c :: tail := by
      intro more
      rw [toList_pairText, toList_identifier, hcs]
      exact ⟨_, rfl⟩
    cases pairs with
    | nil =>
      obtain ⟨tail, htail⟩ := hbegin rest
      rw [pairsText_singleton, htail]
      exact readText_of_head_ne rfl hbrace
    | cons q pairs =>
      obtain ⟨tail, htail⟩ := hbegin
        ((", ".toList ++ (pairsText "" middle (q :: pairs)).toList) ++ rest)
      rw [toList_pairsText_cons, List.append_assoc, htail]
      exact readText_of_head_ne rfl hbrace

/-- **A map is read as its pairs**, with any text behind it. -/
theorem readMap_propertyMap (pairs : List (String × String)) (rest : List Char) :
    readMap ((propertyMap pairs).toList ++ rest) = some (pairs, rest) := by
  have htext : (propertyMap pairs).toList ++ rest =
      "\x7b".toList ++ ((pairsText "" ": " pairs).toList ++ ("\x7d".toList ++ rest)) := by
    simp only [propertyMap_eq, String.toList_append, List.append_assoc]
  rw [htext]
  unfold readMap
  by_cases hne : pairs = []
  · subst hne
    have hempty : (pairsText "" ": " []).toList ++ ("\x7d".toList ++ rest) =
        "\x7d".toList ++ rest := rfl
    simp only [readText_append, hempty, bind, Option.bind, pure]
  · have hlength : pairs.length ≤
        ((pairsText "" ": " pairs).toList ++ ("\x7d".toList ++ rest)).length := by
      have := length_le_pairsText "" ": " pairs
      rw [List.length_append]
      omega
    have hbrace : Separates "\x7d" := separates_of_head rfl (by decide)
    have hcomma : readText ", " ("\x7d".toList ++ rest) = none :=
      readText_of_head_ne rfl (by decide)
    simp only [readText_append, readText_brace_pairsText hne,
      readPairs_pairsText separates_colon hne hlength (hbrace _) hcomma, bind, Option.bind, pure]

/-- **A clause that sets properties is read as its pairs**, also where it is left out. -/
theorem readSet_setClause (var : String) (pairs : List (String × String)) :
    readSet var (if pairs = [] then [] else "\n".toList ++ (setClause var pairs).toList) =
      some pairs := by
  split
  · rename_i hnil
    rw [hnil]
    rfl
  · rename_i hne
    have htext : "\n".toList ++ (setClause var pairs).toList =
        "\nSET ".toList ++ ((pairsText (var ++ ".") " = " pairs).toList ++ []) := by
      rw [setClause_eq hne, String.toList_append, List.append_nil]
      rfl
    have hlength : pairs.length ≤
        ((pairsText (var ++ ".") " = " pairs).toList ++ []).length := by
      rw [List.append_nil]
      exact length_le_pairsText _ _ _
    have hpairs : readPairs (var ++ ".") " = "
        ((pairsText (var ++ ".") " = " pairs).toList ++ []).length
        ((pairsText (var ++ ".") " = " pairs).toList ++ []) = some (pairs, []) :=
      readPairs_pairsText separates_equals hne hlength (stops_nil _) rfl
    rw [htext]
    unfold readSet
    split
    · rename_i hnil
      cases hnil
    · simp only [readText_append, hpairs, bind, Option.bind, pure, List.isEmpty_nil, if_true]

end GraphIngest.Cypher
