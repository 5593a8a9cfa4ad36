import GraphIngest.Yaml.Scalar

/-!
# Places in a YAML text

Two editions of the language are read: the early one is version 1.1, and the late one is version
1.2, which knows fewer line breaks and is stricter about indentation. A cursor is a place in a text
together with the edition that tells what the characters there mean.
-/

namespace GraphIngest.Yaml

/-- The editions of the language. -/
inductive Edition where
  | early
  | late
  deriving DecidableEq, Repr

namespace Edition

/-- A line break. -/
def isBreak (e : Edition) (c : Char) : Bool :=
  match e with
  | .early => Yaml.isBreak c
  | .late => c = '\n'

/-- What ends a word: a blank, a break, or the end of the text. -/
def endsWord (e : Edition) : List Char → Bool
  | [] => true
  | c :: _ => isBlankChar c || e.isBreak c

/-- Every kind of line break as a line feed, but for those that the edition does not know and for
the Unicode separators. -/
def normalizeBreaks (e : Edition) : List Char → List Char
  | [] => []
  | '\r' :: '\n' :: r => '\n' :: normalizeBreaks e r
  | '\r' :: r => '\n' :: normalizeBreaks e r
  | c :: r => (if e = .early && c = '\u0085' then '\n' else c) :: normalizeBreaks e r

end Edition

/-- Characters with a meaning of their own within brackets. -/
def flowMarks : List Char := ",[]\x7b\x7d".toList

/-- A place in a text: what follows it, where it stands, and whether its line holds only blanks
before it. -/
structure Cursor where
  edition : Edition
  rest : List Char
  index : Nat
  line : Nat
  column : Nat
  fresh : Bool

namespace Cursor

/-- The begin of a text. -/
def start (e : Edition) (cs : List Char) : Cursor := ⟨e, cs, 0, 0, 0, true⟩

/-- Steps over a character. -/
def next (k : Cursor) : Cursor :=
  match k.rest with
  | [] => k
  | c :: r =>
    if k.edition.isBreak c then
      { k with rest := r, index := k.index + 1, column := 0, line := k.line + 1, fresh := true }
    else
      { k with
        rest := r, index := k.index + 1, column := k.column + 1, fresh := k.fresh && isBlankChar c }

/-- Steps over a number of characters. -/
def drop (k : Cursor) : Nat → Cursor
  | 0 => k
  | n + 1 => k.next.drop n

/-- Steps over the characters of a class. -/
def dropWhile (k : Cursor) (p : Char → Bool) : Cursor := k.drop (k.rest.takeWhile p).length

/-- The character here satisfies a test. -/
def test (k : Cursor) (p : Char → Bool) : Bool := k.rest.head?.any p

/-- A certain character stands here. -/
def isAt (k : Cursor) (c : Char) : Bool := k.rest.head? == some c

/-- A line break stands here. -/
def atBreak (k : Cursor) : Bool := k.test k.edition.isBreak

/-- A blank stands here. -/
def atBlank (k : Cursor) : Bool := k.test isBlankChar

/-- The line ends here. -/
def atLineEnd (k : Cursor) : Bool := k.rest.isEmpty || k.atBreak

/-- A word ends here. -/
def atWordEnd (k : Cursor) : Bool := k.edition.endsWord k.rest

/-- A word ends behind the character here. -/
def endsWordNext (k : Cursor) : Bool := k.edition.endsWord (k.rest.drop 1)

/-- The character behind the one here satisfies a test. -/
def testNext (k : Cursor) (p : Char → Bool) : Bool := (k.rest.drop 1).head?.any p

/-- Steps over blanks within a line. -/
def skipBlanks (k : Cursor) : Cursor := k.dropWhile isBlankChar

/-- Steps over a comment. -/
def skipComment (k : Cursor) : Cursor :=
  if k.isAt '#' then k.dropWhile (!k.edition.isBreak ·) else k

/-- A mark of three characters stands alone at the begin of a line. -/
def atMark (k : Cursor) (mark : String) : Bool :=
  k.column = 0 && mark.toList.isPrefixOf k.rest && k.edition.endsWord (k.rest.drop 3)

/-- The mark of the begin or of the end of a document stands here. -/
def atDocumentMark (k : Cursor) : Bool := k.atMark "---" || k.atMark "..."

/-- Steps over blanks and a comment behind a token; a comment needs a blank before it. Also returns
the blanks. -/
def skipBehind (k : Cursor) : Option (List Char × Cursor) :=
  let blanks := k.rest.takeWhile isBlankChar
  let behind := k.drop blanks.length
  if behind.isAt '#' && blanks.isEmpty then none else some (blanks, behind.skipComment)

end Cursor

end GraphIngest.Yaml
