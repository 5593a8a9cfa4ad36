import GraphIngest.Decimal.Literal
import GraphIngest.Yaml.Cursor

/-!
# Scalars within lines

A scalar is plain or quoted. Where it goes over several lines, the breaks between them are folded:
one break counts as a space, and of several ones the first does not count.
-/

namespace GraphIngest.Yaml

/-! ## White space within a scalar -/

/-- White space within a scalar: the blanks before the first break, that break, and the further
ones; or only the further ones, where the first break was escaped. -/
structure Gap where
  blanks : List Char
  escaped : Bool
  first? : Option Char
  more : List Char

namespace Gap

/-- No white space. -/
def none : Gap := ⟨[], false, Option.none, []⟩

/-- What an escaped break begins. -/
def escapedBreak : Gap := ⟨[], true, Option.none, []⟩

/-- The white space goes over a line. -/
def isBroken (g : Gap) : Bool := g.escaped || g.first?.isSome

/-- What white space stands for: blanks within a line are kept, one break is a space, further breaks
are kept instead of the first. -/
def folded (g : Gap) : List Char :=
  match g.first? with
  | Option.none => if g.escaped then g.more else g.blanks
  | some c => if c = '\n' then (if g.more.isEmpty then [' '] else g.more) else c :: g.more

/-- Adds a line break. -/
def addBreak (g : Gap) (c : Char) : Gap :=
  if g.isBroken then { g with more := g.more ++ [c] } else ⟨[], false, some c, []⟩

/-- Adds a blank; those at the begin of a line do not count. -/
def addBlank (g : Gap) (c : Char) : Gap :=
  if g.isBroken then g else { g with blanks := g.blanks ++ [c] }

end Gap

/-- Whether a tab may stand where a line has to be indented. -/
inductive TabRule where
  | allowed
  | refused
  /-- Only if nothing but a comment follows on the line. -/
  | onEmptyLine
  deriving DecidableEq, Repr

/-- Steps over white space within a scalar whose lines are to be indented up to a column. -/
def readGap (rule : TabRule) (indent : Int) : Nat → Gap → Cursor → Option (Gap × Cursor)
  | 0, g, k => some (g, k)
  | fuel + 1, g, k =>
    match k.rest with
    | [] => some (g, k)
    | c :: _ =>
      if k.edition.isBreak c then readGap rule indent fuel (g.addBreak c) k.next
      else if !isBlankChar c then some (g, k)
      else if c = '\t' && g.isBroken && (k.column : Int) < indent && rule != .allowed then
        if rule = .refused then none
        else do
          let (_, k) ← k.skipBehind
          if k.atLineEnd then readGap rule indent fuel g k else none
      else readGap rule indent fuel (g.addBlank c) k.next

/-! ## Quoted scalars -/

/-- The characters of the escapes of one letter. -/
def escapedChar? (c : Char) : Option Char :=
  if c = '\t' then some '\t'
  else if c = ' ' || c = '/' then some c
  else if c = '_' then some '\u00a0'
  else (namedEscapes.find? (·.2 == c)).map (·.1)

/-- The number of digits of an escape by code point. -/
def escapeWidth? (c : Char) : Option Nat :=
  if c = 'x' then some 2 else if c = 'u' then some 4 else if c = 'U' then some 8 else none

/-- Reads an escape behind its backslash. -/
def readEscape (k : Cursor) : Option (Char × Cursor) :=
  match k.rest with
  | [] => none
  | c :: r =>
    match escapeWidth? c with
    | some width => do
      let ds := r.take width
      if ds.length < width then none
      let n ← digitsValue? 16 ds
      if n.isValidChar then some (Char.ofNat n, k.drop (width + 1)) else none
    | none => (escapedChar? c).map fun v => (v, k.next)

/-- In the late edition a quoted scalar stands at a column or behind it. -/
def isOutdented (indent : Int) (k : Cursor) : Bool :=
  k.edition = .late && (k.column : Int) < indent

/-- How the lines of a quoted scalar may be indented. -/
def quotedTabs : Edition → TabRule
  | .early => .allowed
  | .late => .refused

/-- Reads a quoted scalar behind its opening quote. -/
def readQuoted (quote : Char) (indent : Int) :
    Nat → List Char → Cursor → Option (List Char × Cursor)
  | 0, _, _ => none
  | fuel + 1, acc, k =>
    if k.atDocumentMark || isOutdented indent k then none
    else match k.rest with
      | [] => none
      | c :: r =>
        let tabs := quotedTabs k.edition
        if c = quote then
          if quote = '\'' && r.head? == some '\'' then
            readQuoted quote indent fuel ('\'' :: acc) (k.drop 2)
          else some (acc.reverse, k.next)
        else if quote = '"' && c = '\\' then
          if k.testNext k.edition.isBreak then
            let k := k.drop 2
            if k.isAt quote then some (acc.reverse, k.next)
            else do
              let (g, k) ← readGap tabs indent (k.rest.length + 1) .escapedBreak k
              readQuoted quote indent fuel (g.folded.reverse ++ acc) k
          else do
            let (v, k) ← readEscape k.next
            readQuoted quote indent fuel (v :: acc) k
        else if k.atBlank || k.atBreak then do
          let (g, k) ← readGap tabs indent (k.rest.length + 1) .none k
          readQuoted quote indent fuel (g.folded.reverse ++ acc) k
        else readQuoted quote indent fuel (c :: acc) k.next

/-! ## Plain scalars -/

/-- How a plain scalar takes the character behind it. -/
inductive PlainStep where
  | more
  | stop
  | refuse
  deriving DecidableEq, Repr

/-- What a character that is no white space means to a plain scalar: a colon at the end of a word
ends it, and within brackets the marks that have a meaning there do. -/
def plainStep (flow : Bool) (k : Cursor) : PlainStep :=
  if k.atWordEnd then .stop
  else if k.isAt ':' then
    if k.endsWordNext then .stop
    else if flow && k.edition = .late && k.testNext flowMarks.contains then .stop
    else if flow && k.edition = .early && k.testNext ('?' :: flowMarks).contains then .refuse
    else .more
  else if flow && k.test flowMarks.contains then .stop
  else .more

/-- Reads a word of a plain scalar. -/
def readWord (flow : Bool) : Nat → List Char → Cursor → Option (List Char × Cursor)
  | 0, acc, k => some (acc.reverse, k)
  | fuel + 1, acc, k =>
    match plainStep flow k, k.rest with
    | .more, c :: _ => readWord flow fuel (c :: acc) k.next
    | .refuse, _ => none
    | _, _ => some (acc.reverse, k)

/-- How the lines of a plain scalar may be indented. -/
def plainTabs : Edition → TabRule
  | .early => .refused
  | .late => .onEmptyLine

/-- In the late edition no word within brackets begins with a dash before one of their marks. -/
def isLoneDash (flow : Bool) (k : Cursor) : Bool :=
  k.edition = .late && flow && k.isAt '-' && k.testNext flowMarks.contains

/-- Reads a plain scalar and the white space behind it; its further lines stand at `indent` or
behind it. Also tells whether the white space behind it goes over a line. -/
def readPlain (flow : Bool) (indent : Int) :
    Nat → List Char → Gap → Cursor → Option (List Char × Bool × Cursor)
  | 0, _, _, _ => none
  | fuel + 1, acc, g, k =>
    if k.atDocumentMark || k.isAt '#' then some (acc.reverse, g.isBroken, k)
    else if isLoneDash flow k then none
    else do
      let (word, k) ← readWord flow (k.rest.length + 1) [] k
      let (acc, g) := if word.isEmpty then (acc, g)
        else (word.reverse ++ g.folded.reverse ++ acc, .none)
      if k.atBlank || k.atBreak then
        let (g, k) ← readGap (plainTabs k.edition) indent (k.rest.length + 1) g k
        if !flow && (k.column : Int) < indent then some (acc.reverse, g.isBroken, k)
        else readPlain flow indent fuel acc g k
      else some (acc.reverse, g.isBroken, k)

end GraphIngest.Yaml
