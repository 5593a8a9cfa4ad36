import GraphIngest.Yaml.Block
import GraphIngest.Yaml.Inline
import GraphIngest.Yaml.Tag

/-!
# Cutting a YAML text into tokens

Block collections begin and end where the columns of their lines say so. A mapping shows only when
the colon behind its first key is met, so every token that may begin a key is kept in mind, and the
marks of the mapping and of the key are put before it then. `Lexer.tokens?` has no answer for a text
that is not well-formed.
-/

namespace GraphIngest.Yaml

/-- A token that may begin a key without a mark, if a colon follows. -/
structure PossibleKey where
  /-- A colon may still follow. -/
  possible : Bool
  /-- A colon has to follow, as the token stands in the column of a block collection. -/
  required : Bool
  /-- The number of the token. -/
  token : Nat
  index : Nat
  line : Nat
  column : Nat

/-- No key. -/
def PossibleKey.none : PossibleKey := ⟨false, false, 0, 0, 0, 0⟩

/-- A column that was left for a deeper one. The deeper one is that of a block collection, or only
one that what follows a mark has to be indented by. -/
structure Indent where
  outer : Int
  block : Bool

/-- A text that is cut into tokens. -/
structure Lexer where
  cursor : Cursor
  /-- The tokens so far with their columns, the last one first. -/
  tokens : List (Token × Nat)
  count : Nat
  /-- A possible key for each bracket that is open, and one outside of them; the innermost first. -/
  keys : List PossibleKey
  /-- A key without a mark may begin here. -/
  keyAllowed : Bool
  /-- The column of the innermost block collection. -/
  indent : Int
  /-- The columns outside of it. -/
  indents : List Indent
  /-- Where a colon may stand without a blank behind it. -/
  adjacent : Nat
  /-- A mapping within brackets was begun by a mark of its own. -/
  marked : Bool
  /-- For each list within brackets that is open, whether a mapping without braces is. -/
  unbraced : List Bool

namespace Lexer

/-- A text without any token. -/
def start (e : Edition) (cs : List Char) : Lexer :=
  ⟨.start e cs, [], 0, [.none], true, -1, [], 0, false, []⟩

/-- The edition of the text. -/
def edition (l : Lexer) : Edition := l.cursor.edition

/-- The edition is the late one. -/
def isLate (l : Lexer) : Bool := l.edition = .late

/-- Brackets are open. -/
def inFlow (l : Lexer) : Bool :=
  match l.keys with
  | _ :: _ :: _ => true
  | _ => false

/-- The column of the place. -/
def column (l : Lexer) : Nat := l.cursor.column

/-- Adds a token. -/
def push (l : Lexer) (t : Token) (column : Nat) : Lexer :=
  { l with tokens := (t, column) :: l.tokens, count := l.count + 1 }

/-- Adds a token before the one of a number. -/
def insert (l : Lexer) (number : Nat) (t : Token) (column : Nat) : Lexer :=
  let behind := l.count - number
  { l with
    tokens := l.tokens.take behind ++ (t, column) :: l.tokens.drop behind
    count := l.count + 1 }

/-- Adds a token of one character. -/
def pushMark (l : Lexer) (t : Token) : Lexer :=
  { l.push t l.column with cursor := l.cursor.next }

/-! ## Columns -/

/-- Leaves the column that something had to be indented by, once a block collection begins there. -/
def joinIndent (l : Lexer) (column : Nat) : Lexer :=
  match l.indents with
  | i :: more =>
    if !i.block && l.indent ≤ column then { l with indent := i.outer, indents := more } else l
  | [] => l

/-- Begins a block collection in a column, unless there is one; its token is put before the one of a
number, if there is a number. -/
def roll (l : Lexer) (column : Nat) (number? : Option Nat) (t : Token) : Lexer :=
  if l.inFlow then l
  else
    let l := l.joinIndent column
    if l.indent < column then
      let l := { l with indents := ⟨l.indent, true⟩ :: l.indents, indent := column }
      match number? with
      | some n => l.insert n t column
      | none => l.push t column
    else l

/-- Ends the block collections behind a column. -/
def unrollAll (column : Int) : Nat → Lexer → Lexer
  | 0, l => l
  | fuel + 1, l =>
    match l.indents with
    | [] => l
    | i :: more =>
      if column < l.indent then
        let l := { l with indent := i.outer, indents := more }
        unrollAll column fuel (if i.block then l.push .blockEnd l.column else l)
      else l

/-- Ends the block collections behind a column; brackets keep them open. -/
def unroll (l : Lexer) (column : Int) : Lexer :=
  if l.inFlow then l else unrollAll column l.indents.length l

/-- In the late edition what follows a mark of a block collection is indented by one column at
least. -/
def rollOne (l : Lexer) : Lexer :=
  if l.isLate && !l.inFlow && l.indents.head?.any (·.block) then
    { l with indents := ⟨l.indent, false⟩ :: l.indents, indent := l.indent + 1 }
  else l

/-- Leaves the columns that are not those of a block collection. -/
def leaveOne (l : Lexer) : Lexer :=
  match l.indents with
  | i :: more => if i.block then l else { l with indent := i.outer, indents := more }
  | [] => l

/-! ## Possible keys -/

/-- The possible key of the innermost brackets. -/
def lastKey (l : Lexer) : PossibleKey := l.keys.head?.getD .none

/-- Sets the possible key of the innermost brackets. -/
def setKey (l : Lexer) (key : PossibleKey) : Lexer := { l with keys := key :: l.keys.drop 1 }

/-- A key that has to be one is given up. -/
def isLost (key : PossibleKey) : Bool := key.possible && key.required

/-- Gives up the possible key. -/
def removeKey (l : Lexer) : Option Lexer :=
  if isLost l.lastKey then none else some (l.setKey { l.lastKey with possible := false })

/-- The next token may begin a key. -/
def saveKey (l : Lexer) : Option Lexer :=
  if !l.keyAllowed then some l
  else if !l.isLate && isLost l.lastKey then none
  else
    let k := l.cursor
    let required := !l.inFlow && l.indent = k.column && l.indents.head?.all (·.block)
    some (l.setKey ⟨true, required, l.count, k.index, k.line, k.column⟩)

/-- The most characters of a key without a mark. -/
def longestKey : Nat := 1024

/-- The place is too far from the begin of a key, or on another line. -/
def isStale (l : Lexer) (key : PossibleKey) : Bool :=
  key.possible && (key.line < l.cursor.line || key.index + longestKey < l.cursor.index)

/-- Gives up the possible key of the innermost brackets if it is too far away; those outside of them
are looked at when the brackets are closed. In the late edition a key within brackets may go over
lines. -/
def dropStale (l : Lexer) : Option Lexer :=
  if l.isLate && l.inFlow || !l.isStale l.lastKey then some l else l.removeKey

/-! ## White space between tokens -/

/-- Steps over white space and comments to the next token, in the early edition. A byte order mark
may begin a line; a tab is white space where no key may begin. -/
def skipEarly : Nat → Lexer → Lexer
  | 0, l => l
  | fuel + 1, l =>
    let k := l.cursor
    let k := if k.column = 0 && k.test (·.toNat = 0xFEFF) then k.next else k
    let k := k.dropWhile fun c => c = ' ' || (c = '\t' && (l.inFlow || !l.keyAllowed))
    let k := k.skipComment
    if k.atBreak then
      skipEarly fuel { l with cursor := k.next, keyAllowed := l.keyAllowed || !l.inFlow }
    else { l with cursor := k }

/-- Steps over white space and comments to the next token, in the late edition. A tab before the
column of a block collection may only stand on a line without a token. -/
def skipLate : Nat → Lexer → Option Lexer
  | 0, l => some l
  | fuel + 1, l =>
    let k := l.cursor
    if k.isAt '\t' && !l.indents.isEmpty && k.fresh && (k.column : Int) < l.indent then do
      let (_, k) ← k.skipBehind
      if k.atLineEnd then skipLate fuel { l with cursor := k } else none
    else if k.atBlank then skipLate fuel { l with cursor := k.next }
    else if k.atBreak then
      skipLate fuel { l with cursor := k.next, keyAllowed := l.keyAllowed || !l.inFlow }
    else if k.isAt '#' then skipLate fuel { l with cursor := k.skipComment }
    else some l

/-- Steps to the next token. -/
def toToken (l : Lexer) : Option Lexer :=
  let fuel := l.cursor.rest.length + 1
  match l.edition with
  | .early => some (skipEarly fuel l)
  | .late => skipLate fuel l

/-- In the late edition, steps over blanks and a comment behind a token. Also returns the blanks. -/
def skipBehind (l : Lexer) : Option (List Char × Lexer) :=
  match l.edition with
  | .early => some ([], l)
  | .late => l.cursor.skipBehind.map fun (blanks, k) => (blanks, { l with cursor := k })

/-! ## Marks -/

/-- Reads a directive. -/
def lexDirective (l : Lexer) : Option Lexer := do
  let l ← (l.unroll (-1)).removeKey
  let (t, k) ← readDirective l.cursor
  some { l.push t l.column with cursor := k, keyAllowed := false }

/-- Reads the mark of the begin or of the end of a document. In the late edition nothing but a
comment follows that of the end on its line. -/
def lexDocumentMark (l : Lexer) (t : Token) : Option Lexer := do
  let l ← (l.unroll (-1)).removeKey
  let l := { l.push t l.column with cursor := l.cursor.drop 3, keyAllowed := false }
  if t = .documentEnd then
    let (_, l) ← l.skipBehind
    if l.isLate && !l.cursor.atLineEnd then none else some l
  else some l

/-- The most brackets that may be open in the late edition. -/
def deepestFlow : Nat := 255

/-- Reads an opening bracket. -/
def lexOpening (l : Lexer) (t : Token) : Option Lexer := do
  let l := (← l.saveKey).rollOne
  if l.isLate && deepestFlow < l.keys.length then none
  let l := { l.pushMark t with keys := .none :: l.keys, keyAllowed := true }
  let l := if t = .flowMappingStart then { l with marked := true }
    else { l with unbraced := false :: l.unbraced }
  return (← l.skipBehind).2

/-- Ends a mapping without braces. -/
def endUnbraced (l : Lexer) : Lexer :=
  match l.unbraced with
  | true :: more =>
    { l.push .flowMappingEnd l.column with marked := false, unbraced := false :: more }
  | _ => l

/-- Reads a closing bracket. -/
def lexClosing (l : Lexer) (t : Token) : Option Lexer := do
  let l ← l.removeKey
  let l := { l with keys := if l.inFlow then l.keys.drop 1 else l.keys, keyAllowed := false }
  let l := if t = .flowListEnd then
      let l := l.endUnbraced
      { l with unbraced := l.unbraced.drop 1 }
    else l
  let (_, l) ← (l.pushMark t).skipBehind
  some (if l.inFlow then { l with adjacent := l.cursor.index } else l)

/-- Reads a comma. -/
def lexComma (l : Lexer) : Option Lexer := do
  let l ← l.removeKey
  let l := ({ l with keyAllowed := true } : Lexer).endUnbraced
  return (← (l.pushMark .comma).skipBehind).2

/-- The last token is the name or the tag of a node, at the begin of a line. -/
def isBehindProperty (l : Lexer) : Bool :=
  match l.tokens with
  | (.anchor _, 0) :: _ | (.tag _ _, 0) :: _ => true
  | _ => false

/-- Reads the mark of an item of a block list, in the early edition. Within brackets the mark is out
of place, which shows later. -/
def lexItemEarly (l : Lexer) : Option Lexer := do
  if !l.inFlow && !l.keyAllowed then none
  let l ← (l.roll l.column none .blockListStart).removeKey
  some { l.pushMark .item with keyAllowed := true }

/-- Reads the mark of an item of a block list, in the late edition. No tab may stand between two
such marks. -/
def lexItemLate (l : Lexer) : Option Lexer := do
  if l.inFlow || !l.keyAllowed then none
  if l.isBehindProperty && l.column = 0 && -1 < l.indent then none
  let column := l.column
  let l := ({ l with cursor := l.cursor.next } : Lexer).roll column none .blockListStart
  let (blanks, l) ← l.skipBehind
  if blanks.contains '\t' && l.cursor.isAt '-' && l.cursor.endsWordNext then none
  let bare := l.cursor.atBreak || l.cursor.test flowMarks.contains
  let l ← (if bare then l.rollOne else l).removeKey
  some { l.push .item l.column with keyAllowed := true }

/-- In the late edition, steps over the white space behind the mark of a key: there has to be some,
and no tab behind it. -/
def skipBehindKey : Nat → Bool → Lexer → Option Lexer
  | 0, _, l => some l
  | fuel + 1, spaced, l =>
    let k := l.cursor
    if k.isAt ' ' then skipBehindKey fuel true { l with cursor := k.next }
    else if k.atBreak then
      skipBehindKey fuel true { l with cursor := k.next, keyAllowed := l.keyAllowed || !l.inFlow }
    else if k.isAt '#' then skipBehindKey fuel spaced { l with cursor := k.skipComment }
    else if !spaced || k.isAt '\t' then none
    else some l

/-- Reads the mark of a key. -/
def lexKey (l : Lexer) : Option Lexer := do
  if !l.inFlow && !l.keyAllowed then none
  let column := l.column
  let l := l.roll column none .blockMappingStart
  let l := if l.inFlow then { l with marked := true } else l
  let l ← l.removeKey
  let l := { l with keyAllowed := !l.inFlow, cursor := l.cursor.next }
  let l ← (match l.edition with
    | .early => some l
    | .late => skipBehindKey (l.cursor.rest.length + 1) false l)
  some (l.push .key column)

/-- In the late edition, steps over a colon and the blanks behind it, if the first of them is a tab:
tabs alone do not set a word apart. -/
def skipColon (l : Lexer) : Option Lexer := do
  let l := { l with cursor := l.cursor.next }
  if l.isLate && l.cursor.isAt '\t' then
    let (blanks, l) ← l.skipBehind
    if !blanks.contains ' ' && l.cursor.test fun c => c = '-' || isWordChar c then none else some l
  else some l

/-- Reads the colon behind a key without a mark. A mapping without braces begins before its key,
which is on the line of the colon. -/
def lexValueOfKey (l : Lexer) (key : PossibleKey) (unbraced : Bool) (line column : Nat) :
    Option Lexer := do
  let l := l.insert key.token .key key.column
  if unbraced && key.line < line then none
  let l := if unbraced then l.insert key.token .flowMappingStart key.column else l
  let l := (l.roll key.column (some key.token) .blockMappingStart).rollOne
  let l := l.setKey { key with possible := false }
  some (({ l with keyAllowed := false } : Lexer).push .value column)

/-- Reads a colon that has no key, or one with a mark. -/
def lexValueAlone (l : Lexer) (unbraced : Bool) (column : Nat) : Option Lexer := do
  let l := if unbraced then l.push .flowMappingStart column else l
  if !l.inFlow && !l.keyAllowed then none
  let l := (l.roll column none .blockMappingStart).rollOne
  some (({ l with keyAllowed := !l.inFlow } : Lexer).push .value column)

/-- Reads a colon. -/
def lexValue (l : Lexer) : Option Lexer := do
  let key := l.lastKey
  let unbraced := l.isLate && !l.unbraced.isEmpty && !l.marked
  let l := if unbraced then { l with unbraced := true :: l.unbraced.drop 1 } else l
  let line := l.cursor.line
  let column := l.column
  let l ← l.skipColon
  if key.possible then l.lexValueOfKey key unbraced line column
  else l.lexValueAlone unbraced column

/-! ## Names, tags and scalars -/

/-- Adds the token that a reader finds, in a place where a key may begin. -/
def lexWith (l : Lexer) (read : Cursor → Option (Token × Cursor)) : Option Lexer := do
  let l ← l.saveKey
  let (t, k) ← read l.cursor
  some { l.push t l.column with cursor := k, keyAllowed := false }

/-- Reads the name of a node. -/
def lexAnchor (l : Lexer) : Option Lexer :=
  l.lexWith fun k => (readName k.next).map fun (name, k) => (.anchor name, k)

/-- Reads a reference to a node. -/
def lexAlias (l : Lexer) : Option Lexer :=
  l.lexWith fun k => (readName k.next).map fun (name, k) => (.alias name, k)

/-- Reads a tag. -/
def lexTag (l : Lexer) : Option Lexer := l.lexWith (readTag l.inFlow)

/-- Reads a block scalar. -/
def lexBlock (l : Lexer) : Option Lexer := do
  let l ← if l.isLate then l.saveKey else l.removeKey
  let column := l.column
  let l := l.leaveOne
  let (cs, style, k) ← readBlock l.indent l.cursor
  some { l.push (.scalar (String.ofList cs) style) column with cursor := k, keyAllowed := true }

/-- In the late edition, what may follow a quoted scalar on its line: a comment, a mark of the
brackets it stands in, or the colon behind a key; outside of brackets a key is on one line. -/
def closesQuoted (l : Lexer) (line : Nat) : Bool :=
  let k := l.cursor
  k.atLineEnd || (l.inFlow && k.test (isOneOf ",]\x7d")) ||
    (k.isAt ':' && (l.inFlow || k.line = line))

/-- Reads a quoted scalar. -/
def lexQuoted (l : Lexer) (quote : Char) : Option Lexer := do
  let l ← l.saveKey
  let k := l.cursor
  let (cs, behind) ← readQuoted quote l.indent (k.rest.length + 1) [] k.next
  let (_, next) ← ({ l with cursor := behind, keyAllowed := false } : Lexer).skipBehind
  if next.isLate && !next.closesQuoted k.line then none
  let next ← if next.isLate then next.toToken else some next
  some { next.push (.scalar (String.ofList cs) .quoted) k.column with
    adjacent := next.cursor.index }

/-- Reads a plain scalar. In the late edition it is indented also within brackets, and is not
empty. -/
def lexPlain (l : Lexer) : Option Lexer := do
  let l := (← l.saveKey).leaveOne
  let k := l.cursor
  let indent := l.indent + 1
  if l.isLate && l.inFlow && k.column < indent then none
  let (cs, broken, behind) ← readPlain l.inFlow indent (k.rest.length + 1) [] .none k
  if l.isLate && cs.isEmpty then none
  some { l.push (.scalar (String.ofList cs) .plain) k.column with
    cursor := behind
    keyAllowed := broken }

/-! ## Tokens -/

/-- A dash is the mark of an item here, unless a plain scalar begins with it. -/
def lexDash (l : Lexer) : Option Lexer :=
  if l.cursor.endsWordNext then
    match l.edition with
    | .early => l.lexItemEarly
    | .late => l.lexItemLate
  else l.lexPlain

/-- A question mark is the mark of a key here, unless a plain scalar begins with it. -/
def lexQuestion (l : Lexer) : Option Lexer :=
  if l.cursor.endsWordNext || (!l.isLate && l.inFlow) then l.lexKey else l.lexPlain

/-- A colon ends a key here, unless a plain scalar begins with it. -/
def lexColon (l : Lexer) : Option Lexer :=
  let k := l.cursor
  let ends := match l.edition with
    | .early => l.inFlow
    | .late => l.inFlow && (k.testNext flowMarks.contains || k.index = l.adjacent)
  if k.endsWordNext || ends then l.lexValue else l.lexPlain

/-- Reads the token that begins with a character. -/
def lexChar (l : Lexer) (c : Char) : Option Lexer :=
  if c = '[' then l.lexOpening .flowListStart
  else if c = '\x7b' then l.lexOpening .flowMappingStart
  else if c = ']' then l.lexClosing .flowListEnd
  else if c = '\x7d' then l.lexClosing .flowMappingEnd
  else if c = ',' then l.lexComma
  else if c = '-' then l.lexDash
  else if c = '?' then l.lexQuestion
  else if c = ':' then l.lexColon
  else if c = '*' then l.lexAlias
  else if c = '&' then l.lexAnchor
  else if c = '!' then l.lexTag
  else if (c = '|' || c = '>') && !l.inFlow then l.lexBlock
  else if c = '\'' || c = '"' then l.lexQuoted c
  else if isOneOf "%@\x60" c || (!l.isLate && (isOneOf "|>#" c || l.cursor.atWordEnd)) then none
  else l.lexPlain

/-- Reads the next token, in front of which the cursor stands. -/
def lexToken (l : Lexer) : Option Lexer :=
  let k := l.cursor
  if k.column = 0 && k.isAt '%' then l.lexDirective
  else if k.atMark "---" then l.lexDocumentMark .documentStart
  else if k.atMark "..." then l.lexDocumentMark .documentEnd
  else if l.isLate && (k.column : Int) < l.indent then none
  else match k.rest with
    | [] => none
    | c :: _ => l.lexChar c

/-- Reads all tokens up to the end of the text. -/
def lexAll : Nat → Lexer → Option Lexer
  | 0, _ => none
  | fuel + 1, l => do
    let l ← (← l.toToken).dropStale
    let l := l.unroll l.column
    if l.cursor.rest.isEmpty then (l.unroll (-1)).removeKey
    else lexAll fuel (← l.lexToken)

/-- The tokens of a text. -/
def tokens? (e : Edition) (cs : List Char) : Option (List Token) := do
  let l ← lexAll (cs.length + 2) (start e cs)
  some (l.tokens.reverse.map (·.1))

end Lexer

end GraphIngest.Yaml
