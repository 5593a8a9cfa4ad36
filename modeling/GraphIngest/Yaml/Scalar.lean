import GraphIngest.Yaml.Plain

/-!
# Writing scalars

A text is written without quotes where it reads back as itself; else in single quotes; else, when it
holds a character that has no place there, in double quotes with escapes. A text of several lines is
a literal block, unless a character or a trailing space would not survive in it.
-/

namespace GraphIngest.Yaml

/-- A line break. -/
def isBreak (c : Char) : Bool :=
  c = '\n' || c = '\r' || c = '\u0085' || c = '\u2028' || c = '\u2029'

/-- A space or tab. -/
def isBlankChar (c : Char) : Bool := c = ' ' || c = '\t'

/-- A character that can only be written by an escape. -/
def isSpecial (c : Char) : Bool :=
  let n := c.toNat
  !(c = '\n' || (0x20 ≤ n && n ≤ 0x7E) || (0xA0 ≤ n && n ≤ 0xD7FF) ||
    (0xE000 ≤ n && n ≤ 0xFFFD && n ≠ 0xFEFF) || 0x10000 ≤ n)

/-- What ends a word: a blank, a break, or the end of the text. -/
def endsWord : List Char → Bool
  | [] => true
  | c :: _ => isBlankChar c || isBreak c

/-- A space stands directly before a break. -/
def spaceBeforeBreak : List Char → Bool
  | a :: b :: r => (a = ' ' && isBreak b) || spaceBeforeBreak (b :: r)
  | _ => false

/-- A space stands directly after a break. -/
def spaceAfterBreak : List Char → Bool
  | a :: b :: r => (isBreak a && b = ' ') || spaceAfterBreak (b :: r)
  | _ => false

/-- Characters that begin something other than a plain scalar. -/
def indicators : List Char := "#,[]\x7b\x7d&*!|>'\"%@\x60".toList

/-- A mark behind the first character that would end a plain scalar: a colon at the end of a word,
or a comment. -/
def hasInnerMark : List Char → Bool
  | a :: b :: r => (b = ':' && endsWord r) || (b = '#' && (isBlankChar a || isBreak a)) ||
      hasInnerMark (b :: r)
  | _ => false

/-- The first character, or the first ones, would be read as something else. -/
def hasLeadingMark (cs : List Char) : Bool :=
  match cs with
  | [] => true
  | c :: r =>
    "---".toList.isPrefixOf cs || "...".toList.isPrefixOf cs || indicators.contains c ||
      ((c = '?' || c = ':' || c = '-') && endsWord r)

/-- A space or break. -/
def isSpaceOrBreak (c : Char) : Bool := c = ' ' || isBreak c

/-- The text may be written without quotes. -/
def plainAllowed (cs : List Char) : Bool :=
  !(hasLeadingMark cs || hasInnerMark cs || cs.any isSpecial || cs.any isBreak ||
    (cs.head?.any isSpaceOrBreak) || (cs.getLast?.any isSpaceOrBreak))

/-- The text may be written in single quotes. -/
def singleAllowed (cs : List Char) : Bool :=
  !(cs.any isSpecial || spaceBeforeBreak cs || spaceAfterBreak cs)

/-- The text may be written as a literal block. -/
def literalAllowed (cs : List Char) : Bool :=
  !(cs.any isSpecial || spaceBeforeBreak cs || cs.getLast? == some ' ')

/-- Spaces up to a column. -/
def spaces (n : Nat) : List Char := List.replicate n ' '

/-- Single quotes within a text are doubled; a line break is followed by the indentation. -/
def singleBody (indent : Nat) : Bool → List Char → List Char
  | broken, [] => if broken then spaces indent else []
  | broken, c :: cs =>
    if isBreak c then c :: singleBody indent true cs
    else
      (if broken then spaces indent else []) ++ (if c = '\'' then ['\'', '\''] else [c]) ++
        singleBody indent false cs

/-- A text in single quotes. -/
def single (indent : Nat) (cs : List Char) : List Char :=
  '\'' :: singleBody indent false cs ++ ['\'']

/-- Upper case hexadecimal digits of a number, with zeros in front up to a width. -/
def upperHex (width n : Nat) : List Char :=
  let ds := (Nat.toDigits 16 n).map Char.toUpper
  List.replicate (width - ds.length) '0' ++ ds

/-- The letters of the escapes with a letter of their own. -/
def namedEscapes : List (Char × Char) :=
  [('\x00', '0'), ('\x07', 'a'), ('\x08', 'b'), ('\t', 't'), ('\n', 'n'), ('\x0b', 'v'),
   ('\x0c', 'f'), ('\r', 'r'), ('\x1b', 'e'), ('"', '"'), ('\\', '\\'), ('\u0085', 'N'),
   ('\u2028', 'L'), ('\u2029', 'P')]

/-- One character within double quotes. -/
def doubleChar (c : Char) : List Char :=
  if isSpecial c || isBreak c || c = '"' || c = '\\' then
    match namedEscapes.find? (·.1 == c) with
    | some (_, e) => ['\\', e]
    | none =>
      let n := c.toNat
      if n ≤ 0xFF then '\\' :: 'x' :: upperHex 2 n
      else if n ≤ 0xFFFF then '\\' :: 'u' :: upperHex 4 n
      else '\\' :: 'U' :: upperHex 8 n
  else [c]

/-- A text in double quotes. -/
def double (cs : List Char) : List Char := '"' :: cs.flatMap doubleChar ++ ['"']

/-- The lines of a literal block: each is indented, unless it is empty. -/
def literalBody (indent : Nat) : Bool → List Char → List Char
  | _, [] => []
  | broken, c :: cs =>
    if isBreak c then c :: literalBody indent true cs
    else (if broken then spaces indent else []) ++ c :: literalBody indent false cs

/-- How the breaks at the end of a literal block are kept: one of them, none, or all. -/
def chomping (cs : List Char) : List Char :=
  match cs.reverse with
  | [] => ['-']
  | [c] => if isBreak c then ['+'] else ['-']
  | c :: d :: _ => if !isBreak c then ['-'] else if isBreak d then ['+'] else []

/-- A text as a literal block. -/
def literal (indent : Nat) (cs : List Char) : List Char :=
  '|' :: (if cs.head?.any isSpaceOrBreak then ['2'] else []) ++ chomping cs ++
    '\n' :: literalBody indent true cs

/-- The written form of a text whose further lines stand at a column. -/
def scalar (indent : Nat) (s : String) : List Char :=
  let cs := s.toList
  if cs.contains '\n' then if literalAllowed cs then literal indent cs else double cs
  else if !needsQuotes cs && plainAllowed cs then cs
  else if singleAllowed cs then single indent cs
  else double cs

/-- Ends a line, unless a block has ended it. -/
def endLine (cs : List Char) : List Char :=
  if cs.getLast?.any isBreak then cs else cs ++ ['\n']

end GraphIngest.Yaml
