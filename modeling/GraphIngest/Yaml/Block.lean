import GraphIngest.Yaml.Cursor
import GraphIngest.Yaml.Token

/-!
# Block scalars

A block scalar takes whole lines that are indented behind the node it belongs to. Its header tells
whether single breaks are folded, how far the lines are indented, and which breaks at the end are
kept.
-/

namespace GraphIngest.Yaml

/-- Which breaks at the end of a block scalar are kept. -/
inductive Chomping where
  | one
  | none
  | all
  deriving DecidableEq, Repr

/-- What the header of a block scalar says. -/
structure BlockHeader where
  folded : Bool
  indent? : Option Nat
  chomping? : Option Chomping

namespace BlockHeader

/-- The breaks at the end that are kept; one of them if the header does not say. -/
def chomping (h : BlockHeader) : Chomping := h.chomping?.getD .one

end BlockHeader

/-- Reads the indicators of a block scalar, at most one of either kind. -/
def readIndicators : Nat → BlockHeader → Cursor → Option (BlockHeader × Cursor)
  | 0, h, k => some (h, k)
  | fuel + 1, h, k =>
    match k.rest with
    | [] => some (h, k)
    | c :: _ =>
      if (c = '+' || c = '-') && h.chomping?.isNone then
        readIndicators fuel { h with chomping? := some (if c = '+' then .all else .none) } k.next
      else if c.isDigit && h.indent?.isNone then
        if c = '0' then none
        else readIndicators fuel { h with indent? := some (c.toNat - 48) } k.next
      else some (h, k)

/-- Reads the header of a block scalar up to the end of its line. -/
def readHeader (k : Cursor) : Option (BlockHeader × Cursor) := do
  let (h, k) ← readIndicators 2 ⟨k.isAt '>', none, none⟩ k.next
  let k ← (match k.edition with
    | .early => some k.skipBlanks.skipComment
    | .late => k.skipBehind.map (·.2))
  if k.atLineEnd then some (h, k) else none

/-- Steps over empty lines and the indentation of the next line, up to a column where one is given.
Returns the breaks, the largest column met, and the cursor. In the early edition no tab indents. -/
def readIndentation (column? : Option Nat) :
    Nat → List Char → Nat → Cursor → Option (List Char × Nat × Cursor)
  | 0, acc, most, k => some (acc.reverse, most, k)
  | fuel + 1, acc, most, k =>
    let room := match column? with
      | some n => n - k.column
      | none => k.rest.length
    let k := k.drop ((k.rest.take room).takeWhile (· = ' ')).length
    let most := max most k.column
    let short := column?.all fun n => decide (k.column < n)
    if short && k.isAt '\t' && k.edition = .early then none
    else match k.rest with
      | [] => some (acc.reverse, most, k)
      | c :: _ =>
        if k.edition.isBreak c then readIndentation column? fuel (c :: acc) most k.next
        else some (acc.reverse, most, k)

/-- The column of the lines of a block scalar whose header does not tell it, given the column of the
node it belongs to and the largest column before its first line. -/
def foundColumn (e : Edition) (parent : Int) (most : Nat) : Nat :=
  let column := max most (parent + 1).toNat
  match e with
  | .early => max column 1
  | .late => column

/-- The lines of a block scalar: the text, the break behind its last line, and the breaks of the
empty lines behind that. -/
structure BlockLines where
  text : List Char
  leading : List Char
  breaks : List Char

/-- Reads the lines of a block scalar; `blank` tells whether the line before begins with a blank. -/
def readBlockLines (folded : Bool) (column : Nat) :
    Nat → BlockLines → Bool → Cursor → Option (BlockLines × Cursor)
  | 0, b, _, k => some (b, k)
  | fuel + 1, b, blank, k =>
    if k.column ≠ column || k.rest.isEmpty || (k.edition = .late && k.atMark "...") then some (b, k)
    else do
      let joint :=
        if folded && b.leading == ['\n'] && !blank && !k.atBlank then
          if b.breaks.isEmpty then [' '] else []
        else b.leading
      let body := k.rest.takeWhile (!k.edition.isBreak ·)
      let text := b.text ++ joint ++ b.breaks ++ body
      let behind := k.drop body.length
      match behind.rest with
      | [] => some (⟨text, [], []⟩, behind)
      | c :: _ =>
        let (breaks, _, next) ←
          readIndentation (some column) (behind.rest.length + 1) [] 0 behind.next
        readBlockLines folded column fuel ⟨text, [c], breaks⟩ k.atBlank next

/-- The text of the lines with the breaks at the end that are kept. In the late edition a last line
without a break counts as if it had one. -/
def BlockLines.chomp (b : BlockLines) (chomping : Chomping) (column : Nat) (k : Cursor) :
    List Char :=
  let unended := k.edition = .late && k.rest.isEmpty && max column 1 ≤ k.column
  let one := b.leading ++ if unended then ['\n'] else []
  match chomping with
  | .none => b.text
  | .one => b.text ++ one
  | .all => b.text ++ one ++ b.breaks

/-- The text of a block scalar without lines at the end of a text of the late edition, given the
break behind its header and the breaks of the empty lines. -/
def emptyBlock (chomping : Chomping) (headerBreak breaks : List Char) (sameLine : Bool) :
    List Char :=
  if sameLine then []
  else match chomping with
    | .none => []
    | .one => headerBreak
    | .all => if breaks.isEmpty then headerBreak else breaks

/-- Reads a block scalar at its first mark, in a node of the column `parent`. In the late edition
the first line does not begin with a tab, and no line stands between the node and the column of the
lines. -/
def readBlock (parent : Int) (start : Cursor) : Option (List Char × ScalarStyle × Cursor) := do
  let (h, k) ← readHeader start
  let late := k.edition = .late
  let style := if h.folded then ScalarStyle.folded else .literal
  let headerBreak := if k.atBreak then ['\n'] else []
  let k := if k.atBreak then k.next else k
  if late && k.isAt '\t' then none
  let column? := h.indent?.map fun d => (if parent ≥ 0 then parent.toNat else 0) + d
  let (breaks, most, k) ← readIndentation column? (k.rest.length + 1) [] 0 k
  let column := column?.getD (foundColumn k.edition parent most)
  if late && k.rest.isEmpty then
    some (emptyBlock h.chomping headerBreak breaks (k.line = start.line), style, k)
  else if late && k.column < column && parent < k.column then none
  else
    let (b, k) ← readBlockLines h.folded column (k.rest.length + 1) ⟨[], [], breaks⟩ false k
    some (b.chomp h.chomping column k, style, k)

end GraphIngest.Yaml
