import GraphIngest.Settings.Value

/-!
# Settings in RON

A record stands between parentheses with its fields by name, perhaps behind a name of its own;
without field names it is a list. A map stands between braces, with texts for keys. A value may be
optional: `None`, or one behind `Some`. Numbers may be grouped with underscores and have the base 2,
8 or 16; an integer that is out of range is a floating point number. Of a repeated key the last
value counts.
-/

namespace GraphIngest.Setting.Ron

/-! ## White space -/

/-- White space between tokens. -/
def isSpace (c : Char) : Bool := c = ' ' || c = '\t' || c = '\n' || c = '\r'

/-- What follows the end of a comment that goes over lines; comments nest. -/
def closeComment? : Nat → List Char → Option (List Char)
  | level, '/' :: '*' :: cs => closeComment? (level + 1) cs
  | 0, '*' :: '/' :: cs => some cs
  | level + 1, '*' :: '/' :: cs => closeComment? level cs
  | level, _ :: cs => closeComment? level cs
  | _, [] => none

/-- Passes over white space and comments; the fuel is more than the length of the text. -/
def skip : Nat → List Char → Option (List Char)
  | 0, cs => some cs
  | fuel + 1, cs =>
    match cs.dropWhile isSpace with
    | '/' :: '/' :: rest => skip fuel (rest.dropWhile (· ≠ '\n'))
    | '/' :: '*' :: rest => do skip fuel (← closeComment? 0 rest)
    | '/' :: _ => none
    | rest => some rest

/-- Passes over white space and comments. -/
def skipSpace (cs : List Char) : Option (List Char) := skip (cs.length + 1) cs

/-- Passes over a mark and what stands between it and the next token. -/
def readMark (mark : Char) : List Char → Option (List Char)
  | c :: cs => if c = mark then skipSpace cs else none
  | [] => none

/-! ## Names -/

/-- The character begins a name. -/
def beginsName (c : Char) : Bool := c.isAlpha || c = '_'

/-- The character goes on with a name. -/
def continuesName (c : Char) : Bool := c.isAlphanum || c = '_'

/-- The character goes on with a raw name. -/
def continuesRawName (c : Char) : Bool := continuesName c || c = '.' || c = '+' || c = '-'

/-- Reads a name. A raw one stands behind `r#`; any other has no character that only a raw one may
have right behind it. -/
def readName? (cs : List Char) : Option (String × List Char) :=
  match cs with
  | 'r' :: '"' :: _ => none
  | 'r' :: '#' :: rest =>
    let name := rest.takeWhile continuesRawName
    if name.isEmpty then none else some (String.ofList name, rest.drop name.length)
  | c :: _ =>
    let name := cs.takeWhile continuesName
    let rest := cs.drop name.length
    if beginsName c && !rest.head?.any continuesRawName then some (String.ofList name, rest)
    else none
  | [] => none

/-- What follows a certain word, if it stands in front and the name ends with it. -/
def readWord? (word : String) (cs : List Char) : Option (List Char) :=
  let rest := cs.drop word.length
  if word.toList.isPrefixOf cs && !rest.head?.any continuesName then some rest else none

/-! ## Texts -/

/-- Reads a code point of up to six hexadecimal digits between braces. -/
def readCode (cs : List Char) : Option (Char × List Char) := do
  match cs with
  | '\x7b' :: rest =>
    let ds := (rest.take 6).takeWhile (· ≠ '\x7d')
    let n ← digitsValue? 16 ds
    match rest.drop ds.length with
    | '\x7d' :: rest => if n.isValidChar then some (Char.ofNat n, rest) else none
    | _ => none
  | _ => none

/-- Reads an escape behind its backslash. -/
def readEscape : List Char → Option (Char × List Char)
  | 'x' :: a :: b :: rest => (digitsValue? 16 [a, b]).map fun n => (Char.ofNat n, rest)
  | 'u' :: rest => readCode rest
  | c :: rest =>
    if c = '\'' || c = '"' || c = '\\' then some (c, rest)
    else if c = 'n' then some ('\n', rest)
    else if c = 'r' then some ('\r', rest)
    else if c = 't' then some ('\t', rest)
    else if c = '0' then some ('\x00', rest)
    else none
  | [] => none

/-- Reads a text up to its closing quote; the fuel is more than the length of the text. -/
def readText : Nat → List Char → Option (List Char × List Char)
  | 0, _ => none
  | _, [] => none
  | fuel + 1, c :: cs =>
    if c = '"' then some ([], cs)
    else if c = '\\' then do
      let (e, rest) ← readEscape cs
      let (s, rest) ← readText fuel rest
      return (e :: s, rest)
    else do
      let (s, rest) ← readText fuel cs
      return (c :: s, rest)

/-- Reads a text without escapes up to a quote with number signs behind it. -/
def readUntil (ending : List Char) : List Char → Option (List Char × List Char)
  | [] => none
  | c :: cs =>
    if ending.isPrefixOf (c :: cs) then some ([], (c :: cs).drop ending.length)
    else (readUntil ending cs).map fun (s, rest) => (c :: s, rest)

/-- Reads a raw text behind its first letter: as many number signs stand before the opening quote as
behind the closing one. -/
def readRawText (cs : List Char) : Option (List Char × List Char) :=
  let signs := cs.takeWhile (· = '#')
  match cs.drop signs.length with
  | '"' :: rest => readUntil ('"' :: signs) rest
  | _ => none

/-- Reads a single character behind its opening quote. -/
def readChar (cs : List Char) : Option (Char × List Char) := do
  let (c, rest) ← (match cs with
    | '\\' :: rest => readEscape rest
    | '\'' :: _ => none
    | c :: rest => some (c, rest)
    | [] => none)
  match rest with
  | '\'' :: rest => some (c, rest)
  | _ => none

/-! ## Numbers -/

/-- A character of a floating point number. -/
def isFloatChar (c : Char) : Bool :=
  c.isDigit || c = '.' || c = 'e' || c = 'E' || c = '+' || c = '-'

/-- A character of an integer, to any base. -/
def isIntegerChar (c : Char) : Bool := (hexValue? c).isSome || c = '_'

/-- Takes the sign of a number. -/
def splitSign : List Char → List Char × List Char
  | '+' :: cs => (['+'], cs)
  | '-' :: cs => (['-'], cs)
  | cs => ([], cs)

/-- The base that the begin of an integer tells, and its digits. -/
def splitBase : List Char → Nat × List Char
  | '0' :: 'x' :: cs => (16, cs)
  | '0' :: 'o' :: cs => (8, cs)
  | '0' :: 'b' :: cs => (2, cs)
  | cs => (10, cs)

/-- Reads an integer of 64 bits, which without a sign may be as large as an unsigned one. It begins
with a digit. -/
def readInteger (cs : List Char) : Option (Int × List Char) := do
  let (sign, body) := splitSign cs
  let (base, body) := splitBase body
  let word := body.takeWhile isIntegerChar
  if word.head? == some '_' then none
  let n ← digitsValue? base (word.filter (· ≠ '_'))
  let fits := if sign = ['-'] then n ≤ 2 ^ 63 else n < if sign.isEmpty then 2 ^ 64 else 2 ^ 63
  if decide fits then some (if sign = ['-'] then -(n : Int) else n, body.drop word.length) else none

/-- Reads a floating point number. -/
def readFloat (cs : List Char) : Option (Setting × List Char) :=
  let word := cs.takeWhile isFloatChar
  (ofNumberText? word).map fun v => (v, cs.drop word.length)

/-- Reads a number: an integer if no more characters could be those of a floating point number, and
if it is one. -/
def readNumber (cs : List Char) : Option (Setting × List Char) :=
  let body := (splitSign cs).2
  let isFloat := (body.takeWhile isIntegerChar).length < (body.takeWhile isFloatChar).length
  match if isFloat then none else readInteger cs with
  | some (i, rest) => some (if i < 2 ^ 63 then integer i else float (.ofInt i), rest)
  | none => readFloat cs

/-! ## Values -/

/-- The words that are values. -/
def words : List (String × Setting) :=
  [("true", bool true), ("false", bool false), ("None", absent), ("inf", infinity false),
   ("-inf", infinity true), ("NaN", notANumber)]

/-- Reads a word that is a value. -/
def readWord (cs : List Char) : Option (Setting × List Char) :=
  words.findSome? fun (word, v) => (readWord? word cs).map fun rest => (v, rest)

/-- Parentheses begin with a field that has a name. -/
def beginsFields (cs : List Char) : Option Bool :=
  match readName? cs with
  | none => some false
  | some (_, rest) =>
    match skipSpace rest with
    | some (c :: _) => some (c = ':')
    | _ => none

/-- Passes over the comma behind an entry, and what stands before the next one; returns whether
there was a comma. -/
def readComma (cs : List Char) : Option (Bool × List Char) := do
  match ← skipSpace cs with
  | ',' :: rest => return (true, ← skipSpace rest)
  | rest => return (false, rest)

/-- Values and the entries of values nest at most this deep, all counted. -/
def nestingLimit : Nat := 128

/-- Steps into a value or an entry. -/
def enter : Nat → Option Nat
  | 0 => none
  | levels + 1 => some levels

/-- The key that a value is. -/
def key? : Setting → Option String
  | text s => some s
  | _ => none

mutual

/-- Reads a value in front of a text; the fuel is more than the length of the text. -/
def readValue : Nat → Nat → List Char → Option (Setting × List Char)
  | 0, _, _ => none
  | fuel + 1, levels, cs =>
    match readWord? "Some" cs, readWord cs with
    | some rest, _ => do
      let rest ← readMark '(' (← skipSpace rest)
      let (v, rest) ← readValue fuel (← enter levels) rest
      match ← skipSpace rest with
      | ')' :: rest => some (v, rest)
      | _ => none
    | none, some found => some found
    | none, none =>
      match readName? cs, cs with
      | some (_, rest), _ => do readBody fuel levels (← skipSpace rest)
      | none, '(' :: ')' :: rest => some (absent, rest)
      | none, '(' :: _ => readBody fuel levels cs
      | none, '[' :: rest => do
        let (items, rest) ← readItems fuel (← enter levels) ']' true (← skipSpace rest)
        some (list items, rest)
      | none, '\x7b' :: rest => do
        let (ms, rest) ← readMembers fuel (← enter levels) true (← skipSpace rest)
        some (ofMembers ms, rest)
      | none, '"' :: rest => do
        let (s, rest) ← readText (rest.length + 1) rest
        some (text (String.ofList s), rest)
      | none, 'r' :: rest => do
        let (s, rest) ← readRawText rest
        some (text (String.ofList s), rest)
      | none, '\'' :: rest => do
        let (c, rest) ← readChar rest
        some (text (String.ofList [c]), rest)
      | none, _ => readNumber cs

/-- Reads what stands behind the name of a record: its fields or items, or nothing. -/
def readBody : Nat → Nat → List Char → Option (Setting × List Char)
  | 0, _, _ => none
  | fuel + 1, levels, cs =>
    match cs with
    | '(' :: rest => do
      let rest ← skipSpace rest
      if ← beginsFields rest then
        let (ms, rest) ← readFields fuel (← enter levels) true rest
        some (ofMembers ms, rest)
      else
        let (items, rest) ← readItems fuel (← enter levels) ')' true rest
        some (list items, rest)
    | _ => some (absent, cs)

/-- Reads items up to a mark; `more` when another item may follow. -/
def readItems : Nat → Nat → Char → Bool → List Char → Option (List Setting × List Char)
  | 0, _, _, _, _ => none
  | fuel + 1, levels, closing, more, cs =>
    match cs with
    | [] => none
    | c :: rest =>
      if c = closing then some ([], rest)
      else if !more then none
      else do
        let (v, rest) ← readValue fuel (← enter levels) (c :: rest)
        let (more, rest) ← readComma rest
        let (vs, rest) ← readItems fuel levels closing more rest
        return (v :: vs, rest)

/-- Reads the members of a map up to its brace, with texts for keys that are not optional; `more`
when another one may follow. -/
def readMembers : Nat → Nat → Bool → List Char → Option (List (String × Setting) × List Char)
  | 0, _, _, _ => none
  | fuel + 1, levels, more, cs =>
    match cs with
    | '\x7d' :: rest => some ([], rest)
    | cs =>
      if !more then none
      else do
        if (readWord? "Some" cs).isSome then none
        let (k, rest) ← readValue fuel (← enter levels) cs
        let rest ← readMark ':' (← skipSpace rest)
        let (v, rest) ← readValue fuel (← enter levels) rest
        let (more, rest) ← readComma rest
        let (ms, rest) ← readMembers fuel levels more rest
        return ((← key? k, v) :: ms, rest)

/-- Reads the fields of a record up to its parenthesis; `more` when another one may follow. -/
def readFields : Nat → Nat → Bool → List Char → Option (List (String × Setting) × List Char)
  | 0, _, _, _ => none
  | fuel + 1, levels, more, cs =>
    match cs with
    | ')' :: rest => some ([], rest)
    | cs =>
      if !more then none
      else do
        let (key, rest) ← readName? cs
        let rest ← readMark ':' (← skipSpace rest)
        let (v, rest) ← readValue fuel (← enter levels) rest
        let (more, rest) ← readComma rest
        let (ms, rest) ← readFields fuel levels more rest
        return ((key, v) :: ms, rest)

end

/-! ## Texts of settings -/

/-- The ways to read a text that it may ask for; none of them matters to a value that is read
without knowing its type, but that `Some` may be left out. -/
def extensions : List String := ["unwrap_newtypes", "implicit_some", "unwrap_variant_newtypes"]

/-- Reads the names of extensions; the fuel is more than the length of the text. -/
def readExtensions : Nat → List Char → Option (List Char)
  | 0, _ => none
  | fuel + 1, cs => do
    let (name, rest) ← readName? cs
    if !extensions.contains name then none
    let (more, rest) ← readComma rest
    if more && rest.head?.any beginsName then readExtensions fuel rest else some rest

/-- Reads the marks of a list in order, with what stands between them. -/
def readMarks : List (List Char) → List Char → Option (List Char)
  | [], cs => some cs
  | mark :: marks, cs =>
    if mark.isPrefixOf cs then do readMarks marks (← skipSpace (cs.drop mark.length)) else none

/-- Passes over the lists of extensions in front of a text; the fuel is more than its length. -/
def skipExtensions : Nat → List Char → Option (List Char)
  | 0, _ => none
  | fuel + 1, cs =>
    match cs with
    | '#' :: _ => do
      let rest ← readMarks [['#'], ['!'], ['['], "enable".toList, ['(']] cs
      let rest ← readExtensions (rest.length + 1) rest
      skipExtensions fuel (← readMarks [[')'], [']']] rest)
    | cs => some cs

/-- The value that a text is. -/
def ofText? (s : String) : Option Setting := do
  let cs := s.toList
  let body ← skipExtensions (cs.length + 1) (← skipSpace cs)
  let (v, rest) ← readValue (2 * cs.length + 2) nestingLimit body
  if (← skipSpace rest).isEmpty then some v else none

end GraphIngest.Setting.Ron
