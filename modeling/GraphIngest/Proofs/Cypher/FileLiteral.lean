import GraphIngest.Proofs.Cypher.Endpoints
import GraphIngest.Proofs.Cypher.Reader

/-!
# The literal of a staged file

A statement that reads a file itself names the file in a literal between single quotes. There a
backslash escapes the character behind it, and the first quote that is not escaped ends the literal.
The generator escapes quotes and leaves backslashes as they are, so a backslash of the name is taken
for an escape when the literal is read.

* `readLiteral_escapeQuotes` — a name without a backslash is read back;
* `length_lt_of_readLiteral` — of a name with one, something else is read, or not up to the end;
* `fileLiteral_read_back_iff` — the literal of a statement denotes the staged file exactly when the
  source has no backslash;
* `fileLiteral_misread` — literals that are cut short or not closed.
-/

namespace GraphIngest.Cypher

open SourceFile (csvName)

/-! ## Reading a literal -/

/-- What an escaped character of a literal stands for, where it may be escaped at all. A backslash
and a quote stand for themselves. -/
structure Escapes where
  meaning : Char → Option Char
  backslash : meaning '\\' = some '\\'
  quote : meaning '\'' = some '\''

/-- Reads the literal behind an opening quote: its value, and the text behind its closing quote. -/
def readLiteral (x : Escapes) : List Char → Option (List Char × List Char)
  | [] => none
  | [c] => if c = '\'' then some ([], []) else none
  | c :: d :: rest =>
    if c = '\'' then some ([], d :: rest)
    else if c = '\\' then
      (x.meaning d).bind fun value => (readLiteral x rest).map fun r => (value :: r.1, r.2)
    else (readLiteral x (d :: rest)).map fun r => (c :: r.1, r.2)

/-- Reads the address in a statement that reads a file, and the text behind it. -/
def readAddress (x : Escapes) (statement : List Char) : Option (List Char × List Char) := do
  let cs ← readText "LOAD CSV WITH HEADERS FROM '" statement
  readLiteral x cs

variable {x : Escapes} {c : Char} {cs rest name value : List Char}

/-- A character that stands for itself in a literal. -/
def IsPlain (c : Char) : Prop := c ≠ '\'' ∧ c ≠ '\\'

theorem readLiteral_quote (x : Escapes) (rest : List Char) :
    readLiteral x ('\'' :: rest) = some ([], rest) := by
  cases rest <;> rfl

theorem readLiteral_backslash (x : Escapes) (c : Char) (rest : List Char) :
    readLiteral x ('\\' :: c :: rest) =
      (x.meaning c).bind fun value => (readLiteral x rest).map fun r => (value :: r.1, r.2) := by
  rw [readLiteral, if_neg (by decide), if_pos rfl]

theorem readLiteral_plain (hc : IsPlain c) (rest : List Char) :
    readLiteral x (c :: rest) = (readLiteral x rest).map fun r => (c :: r.1, r.2) := by
  cases rest with
  | nil => exact if_neg hc.1
  | cons d rest => rw [readLiteral, if_neg hc.1, if_neg hc.2]

theorem readLiteral_plain_append (hquote : '\'' ∉ cs) (hbackslash : '\\' ∉ cs)
    (rest : List Char) :
    readLiteral x (cs ++ rest) = (readLiteral x rest).map fun r => (cs ++ r.1, r.2) := by
  induction cs with
  | nil => simp
  | cons c cs ih =>
    obtain ⟨hc, hquote⟩ := not_or.1 (mt List.mem_cons.2 hquote)
    obtain ⟨hc', hbackslash⟩ := not_or.1 (mt List.mem_cons.2 hbackslash)
    have hplain : IsPlain c := ⟨Ne.symm hc, Ne.symm hc'⟩
    rw [List.cons_append, readLiteral_plain hplain, ih hquote hbackslash, Option.map_map]
    rfl

theorem readLiteral_escapedQuote (x : Escapes) (rest : List Char) :
    readLiteral x ('\\' :: '\'' :: rest) =
      (readLiteral x rest).map fun r => ('\'' :: r.1, r.2) := by
  rw [readLiteral_backslash, x.quote, Option.bind_some]

theorem readLiteral_escapedBackslash (x : Escapes) (rest : List Char) :
    readLiteral x ('\\' :: '\\' :: rest) =
      (readLiteral x rest).map fun r => ('\\' :: r.1, r.2) := by
  rw [readLiteral_backslash, x.backslash, Option.bind_some]

/-- A literal that is read ends in front of less than the text it was read from. -/
theorem length_rest_lt {r : List Char × List Char} (h : readLiteral x cs = some r) :
    r.2.length < cs.length := by
  fun_induction readLiteral x cs generalizing r with
  | case1 => cases h
  | case2 =>
    cases h
    exact Nat.zero_lt_one
  | case3 => cases h
  | case4 =>
    cases h
    exact Nat.lt_succ_self _
  | case5 d rest _ ih =>
    obtain ⟨value, -, hread⟩ := Option.bind_eq_some_iff.1 h
    obtain ⟨r', hr', rfl⟩ := Option.map_eq_some_iff.1 hread
    have hlt := ih hr'
    exact Nat.lt_succ_of_lt (Nat.lt_succ_of_lt hlt)
  | case6 c d rest _ _ ih =>
    obtain ⟨r', hr', rfl⟩ := Option.map_eq_some_iff.1 h
    have hlt := ih hr'
    exact Nat.lt_succ_of_lt hlt

/-! ## Names between quotes -/

theorem escapeQuotes_append (cs ds : List Char) :
    escapeQuotes (cs ++ ds) = escapeQuotes cs ++ escapeQuotes ds := by
  induction cs with
  | nil => rfl
  | cons c cs ih =>
    rw [List.cons_append, escapeQuotes, escapeQuotes, ih]
    split <;> rfl

theorem escapeQuotes_quote (cs : List Char) :
    escapeQuotes ('\'' :: cs) = '\\' :: '\'' :: escapeQuotes cs := by
  rw [escapeQuotes, if_pos rfl]

theorem escapeQuotes_cons (hc : c ≠ '\'') (cs : List Char) :
    escapeQuotes (c :: cs) = c :: escapeQuotes cs := by
  rw [escapeQuotes, if_neg hc]

/-- **A name without a backslash is read back**, whatever quotes it has. -/
theorem readLiteral_escapeQuotes (h : '\\' ∉ name) (rest : List Char) :
    readLiteral x (escapeQuotes name ++ '\'' :: rest) = some (name, rest) := by
  induction name with
  | nil => exact readLiteral_quote x rest
  | cons c cs ih =>
    obtain ⟨hc, hcs⟩ := not_or.1 (mt List.mem_cons.2 h)
    by_cases hquote : c = '\''
    · subst hquote
      rw [escapeQuotes_quote, List.cons_append, List.cons_append, readLiteral_escapedQuote,
        ih hcs, Option.map_some]
    · rw [escapeQuotes_cons hquote, List.cons_append, readLiteral_plain ⟨hquote, Ne.symm hc⟩,
        ih hcs, Option.map_some]

/-- A literal begins with a value when the rest of it is read. -/
theorem map_cons_eq_some_iff {o : Option (List Char × List Char)} :
    (o.map fun r => (c :: r.1, r.2)) = some (value, rest) ↔
      ∃ tail, o = some (tail, rest) ∧ value = c :: tail := by
  constructor
  · intro h
    obtain ⟨r, hr, heq⟩ := Option.map_eq_some_iff.1 h
    obtain ⟨hvalue, hrest⟩ := Prod.mk.inj heq
    exact ⟨r.1, by rw [hr, ← hrest], hvalue.symm⟩
  · rintro ⟨tail, rfl, rfl⟩
    rfl

/-- The value of a literal that ends at its closing quote is no longer than the name, and shorter
where the name has a backslash. The recursion takes a backslash with the character behind it. -/
theorem length_of_readLiteral :
    ∀ {name value : List Char}, readLiteral x (escapeQuotes name ++ '\'' :: rest) =
      some (value, rest) → value.length ≤ name.length ∧
        ('\\' ∈ name → value.length < name.length)
  | [], value, h => by
    cases (readLiteral_quote x rest).symm.trans h
    exact ⟨Nat.le_refl _, nofun⟩
  | c :: cs, value, h => by
    by_cases hquote : c = '\''
    · subst hquote
      rw [escapeQuotes_quote, List.cons_append, List.cons_append, readLiteral_escapedQuote] at h
      obtain ⟨tail, htail, rfl⟩ := map_cons_eq_some_iff.1 h
      obtain ⟨hle, hlt⟩ := length_of_readLiteral htail
      refine ⟨Nat.succ_le_succ hle, fun hmem => Nat.succ_lt_succ (hlt ?_)⟩
      exact (List.mem_cons.1 hmem).resolve_left (by decide)
    rw [escapeQuotes_cons hquote, List.cons_append] at h
    by_cases hbackslash : c = '\\'
    · subst hbackslash
      cases cs with
      -- The backslash escapes the closing quote, so the literal goes on into the rest.
      | nil =>
        rw [escapeQuotes, List.nil_append, readLiteral_escapedQuote] at h
        obtain ⟨tail, htail, -⟩ := map_cons_eq_some_iff.1 h
        exact absurd (length_rest_lt htail) (Nat.lt_irrefl _)
      | cons d ds =>
        by_cases hd : d = '\''
        -- The backslash escapes the one in front of the quote, so the quote ends the literal.
        · subst hd
          rw [escapeQuotes_quote, List.cons_append, List.cons_append,
            readLiteral_escapedBackslash, readLiteral_quote] at h
          obtain ⟨tail, htail, -⟩ := map_cons_eq_some_iff.1 h
          have hrest := congrArg (fun r => r.2.length) (Option.some.inj htail)
          simp at hrest
          omega
        · rw [escapeQuotes_cons hd, List.cons_append, readLiteral_backslash] at h
          obtain ⟨v, -, hread⟩ := Option.bind_eq_some_iff.1 h
          obtain ⟨tail, htail, rfl⟩ := map_cons_eq_some_iff.1 hread
          obtain ⟨hle, -⟩ := length_of_readLiteral htail
          have hshort : (v :: tail).length < ('\\' :: d :: ds).length :=
            Nat.succ_lt_succ (Nat.lt_succ_of_le hle)
          exact ⟨Nat.le_of_lt hshort, fun _ => hshort⟩
    · rw [readLiteral_plain ⟨hquote, hbackslash⟩] at h
      obtain ⟨tail, htail, rfl⟩ := map_cons_eq_some_iff.1 h
      obtain ⟨hle, hlt⟩ := length_of_readLiteral htail
      refine ⟨Nat.succ_le_succ hle, fun hmem => Nat.succ_lt_succ (hlt ?_)⟩
      exact (List.mem_cons.1 hmem).resolve_left (Ne.symm hbackslash)

/-- **A name is read back exactly when it has no backslash.** -/
theorem readLiteral_escapeQuotes_iff :
    readLiteral x (escapeQuotes name ++ '\'' :: rest) = some (name, rest) ↔ '\\' ∉ name := by
  constructor
  · intro h hmem
    exact absurd ((length_of_readLiteral h).2 hmem) (Nat.lt_irrefl _)
  · intro h
    exact readLiteral_escapeQuotes h rest

/-! ## Statements -/

/-- The address of the staged file of a source. -/
def stagedAddress (source : String) : List Char := ("file:///" ++ csvName source).toList

theorem backslash_mem_stagedAddress {source : String} :
    '\\' ∈ stagedAddress source ↔ '\\' ∈ source.toList := by
  have hname : '\\' ∈ (csvName source).toList ↔ '\\' ∈ source.toList := by
    unfold csvName
    split
    · exact Iff.rfl
    · rw [String.toList_append, List.mem_append, or_iff_left (by decide)]
  unfold stagedAddress
  rw [String.toList_append, List.mem_append, hname, or_iff_right (by decide)]

theorem toList_fileLiteral (source : String) :
    (fileLiteral source).toList = '\'' :: escapeQuotes (stagedAddress source) ++ ['\''] := by
  have hopen : "'file:///".toList = '\'' :: escapeQuotes "file:///".toList := by decide
  have hclose : "'".toList = ['\''] := rfl
  unfold fileLiteral stagedAddress
  rw [String.toList_append, String.toList_append, String.toList_append, escapeQuotes_append, hopen,
    hclose, List.cons_append]
  simp only [String.toList_ofList]

/-- The address of a statement is what is read from its literal. -/
theorem readAddress_append (source : String) (rest : List Char) :
    readAddress x ("LOAD CSV WITH HEADERS FROM ".toList ++ (fileLiteral source).toList ++ rest) =
      readLiteral x (escapeQuotes (stagedAddress source) ++ '\'' :: rest) := by
  have hopen : "LOAD CSV WITH HEADERS FROM ".toList ++ (fileLiteral source).toList ++ rest =
      "LOAD CSV WITH HEADERS FROM '".toList ++
        (escapeQuotes (stagedAddress source) ++ '\'' :: rest) := by
    rw [toList_fileLiteral]
    simp
  unfold readAddress
  rw [hopen, readText_append, Option.bind_eq_bind, Option.bind_some]

/-- A statement that reads a file itself: the literal of the staged file stands in front of the
block that runs for every row. -/
theorem exists_call {g : Generator} {e : Entity} {statement : String}
    (h : g.statement .loadCsv e = .ok statement) :
    ∃ call, statement = "LOAD CSV WITH HEADERS FROM " ++ fileLiteral e.sourceName ++
      (" AS row\nCALL \x7b\n" ++ call) := by
  have hwrap : ∃ size body, statement = wrap .loadCsv e.sourceName size body := by
    cases e with
    | node n =>
      cases h
      exact ⟨_, _, rfl⟩
    | relationship r =>
      obtain ⟨source, -, h⟩ := bind_eq_ok.1 h
      obtain ⟨target, -, h⟩ := bind_eq_ok.1 h
      cases h
      exact ⟨_, _, rfl⟩
  obtain ⟨size, body, rfl⟩ := hwrap
  refine ⟨indentation ++ "WITH row\n" ++ indent ("\n".intercalate body) ++
    "\n\x7d IN TRANSACTIONS OF " ++ toString size ++ " ROWS", ?_⟩
  unfold wrap
  simp only [String.append_assoc]

/-- **The literal of a statement denotes the staged file exactly when the source has no backslash.**
Then it is read up to the quote in front of the words that bind a row and begin the block, and its
value is the address of the file. With a backslash it ends elsewhere, does not end, or has another
value. -/
theorem fileLiteral_read_back_iff {g : Generator} {e : Entity} {statement : String}
    (h : g.statement .loadCsv e = .ok statement) (x : Escapes) :
    ∃ call, statement = "LOAD CSV WITH HEADERS FROM " ++ fileLiteral e.sourceName ++
        (" AS row\nCALL \x7b\n" ++ call) ∧
      (readAddress x statement.toList =
          some (stagedAddress e.sourceName, (" AS row\nCALL \x7b\n" ++ call).toList) ↔
        '\\' ∉ e.sourceName.toList) := by
  obtain ⟨call, rfl⟩ := exists_call h
  refine ⟨call, rfl, ?_⟩
  rw [String.toList_append, String.toList_append, readAddress_append,
    readLiteral_escapeQuotes_iff, backslash_mem_stagedAddress]

/-- The escapes of the query language. -/
def standardEscapes : Escapes where
  meaning
    | '\\' => some '\\'
    | '\'' => some '\''
    | '"' => some '"'
    | 'b' => some '\x08'
    | 'f' => some '\x0c'
    | 'n' => some '\n'
    | 'r' => some '\r'
    | 't' => some '\t'
    | _ => none
  backslash := rfl
  quote := rfl

/-- A node that is loaded from a file. -/
def fileNode (source : String) : Node := ⟨"A", [⟨"id", "id", none, "str", true⟩], source⟩

/-- Loads one node from a file. -/
def fileGenerator (source : String) : Generator := ⟨[fileNode source], [], .default⟩

/-- The condition of `fileLiteral_read_back_iff` is met by a name with a quote, which is read back
without the backslash that escapes it. -/
theorem fileLiteral_read_back_quoted :
    ∃ statement call, (fileGenerator "people's").statement .loadCsv
        (.node (fileNode "people's")) = .ok statement ∧
      readAddress standardEscapes statement.toList =
        some ("file:///people's.csv".toList, (" AS row\nCALL \x7b\n" ++ call).toList) := by
  have h : (fileGenerator "people's").statement .loadCsv (.node (fileNode "people's")) =
      .ok ((fileGenerator "people's").nodeStatement .loadCsv (fileNode "people's")) := rfl
  obtain ⟨call, -, hread⟩ := fileLiteral_read_back_iff h standardEscapes
  exact ⟨_, call, h, hread.2 (by decide)⟩

/-- A text without a quote closes no literal. -/
theorem readLiteral_eq_none (h : '\'' ∉ cs) : readLiteral x cs = none := by
  fun_induction readLiteral x cs with
  | case1 => rfl
  | case2 => exact absurd List.mem_cons_self h
  | case3 => rfl
  | case4 => exact absurd List.mem_cons_self h
  | case5 d rest _ ih =>
    have hrest : '\'' ∉ rest := fun hmem => h (List.mem_cons_of_mem _ (List.mem_cons_of_mem _ hmem))
    rw [ih hrest]
    cases x.meaning d <;> rfl
  | case6 c d rest _ _ ih =>
    rw [ih fun hmem => h (List.mem_cons_of_mem _ hmem)]
    rfl

/-- What stands behind the literal in the statement of the node. -/
def fileCall : String :=
  " AS row\nCALL \x7b\n    WITH row\n    MERGE (n:A \x7bid: row.id\x7d)\n\x7d" ++
    " IN TRANSACTIONS OF 1000 ROWS"

theorem readAddress_fileNode (x : Escapes) (source : String) :
    readAddress x ((fileGenerator source).nodeStatement .loadCsv (fileNode source)).toList =
      readLiteral x (escapeQuotes (stagedAddress source) ++ '\'' :: fileCall.toList) := by
  have hcall : fileCall = " AS row\nCALL \x7b\n" ++ indentation ++ "WITH row\n" ++
      indent ("\n".intercalate (nodeBody (fileNode ""))) ++ "\n\x7d IN TRANSACTIONS OF " ++
        toString BatchSizes.default.nodes ++ " ROWS" := by decide +kernel
  have hstatement : (fileGenerator source).nodeStatement .loadCsv (fileNode source) =
      "LOAD CSV WITH HEADERS FROM " ++ fileLiteral source ++ fileCall := by
    rw [hcall]
    unfold Generator.nodeStatement wrap
    simp only [String.append_assoc]
    rfl
  rw [hstatement, String.toList_append, String.toList_append, readAddress_append]

/-- **The literal need not denote the staged file**, whatever other escapes mean: behind a name that
ends in a backslash the literal is not closed, and of two backslashes within a name one is read. -/
theorem fileLiteral_misread :
    (∃ statement, (fileGenerator "x.c\\").statement .loadCsv (.node (fileNode "x.c\\")) =
      .ok statement ∧ ∀ x, readAddress x statement.toList = none) ∧
    ∃ statement, (fileGenerator "a\\\\b.csv").statement .loadCsv
        (.node (fileNode "a\\\\b.csv")) = .ok statement ∧
      (∀ x, readAddress x statement.toList =
        some ("file:///a\\b.csv".toList, fileCall.toList)) ∧
      stagedAddress "a\\\\b.csv" = "file:///a\\\\b.csv".toList := by
  refine ⟨⟨_, rfl, fun x => ?_⟩, _, rfl, fun x => ?_, by decide⟩
  · have hwritten : escapeQuotes (stagedAddress "x.c\\") = "file:///x.c".toList ++ ['\\'] := by
      decide
    have hrest : '\'' ∉ fileCall.toList := by decide
    rw [readAddress_fileNode, hwritten, List.append_assoc, List.singleton_append,
      readLiteral_plain_append (by decide) (by decide), readLiteral_escapedQuote,
      readLiteral_eq_none hrest]
    rfl
  · have hwritten : escapeQuotes (stagedAddress "a\\\\b.csv") =
        "file:///a".toList ++ '\\' :: '\\' :: "b.csv".toList := by decide
    rw [readAddress_fileNode, hwritten, List.append_assoc, List.cons_append, List.cons_append,
      readLiteral_plain_append (by decide) (by decide), readLiteral_escapedBackslash,
      readLiteral_plain_append (by decide) (by decide), readLiteral_quote]
    rfl

end GraphIngest.Cypher
