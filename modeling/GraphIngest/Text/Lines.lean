/-!
# Segments and lines

`segments sep` cuts a text at every `sep`; it never returns the empty list. `lines` cuts a text into
lines: a line ends at a line feed, one carriage return before the line feed belongs to the line end,
and nothing after the last line feed makes no further line.
-/

namespace GraphIngest.Text

/-- The parts of a text between the separators. -/
def segments (sep : Char) : List Char → List (List Char)
  | [] => [[]]
  | c :: cs =>
    if c = sep then [] :: segments sep cs
    else match segments sep cs with
      | [] => [[c]]
      | s :: ss => (c :: s) :: ss

theorem segments_ne_nil (sep : Char) (cs : List Char) : segments sep cs ≠ [] := by
  cases cs with
  | nil => simp [segments]
  | cons c cs =>
    rw [segments]
    split
    · simp
    · split <;> simp

/-- One carriage return at the end of a line belongs to its line end. -/
def dropCarriageReturn (cs : List Char) : List Char :=
  if cs.getLast? = some '\r' then cs.dropLast else cs

/-- Turns the parts between line feeds into lines. -/
def closeLines : List (List Char) → List (List Char)
  | [] => []
  | [last] => if last.isEmpty then [] else [last]
  | line :: rest => dropCarriageReturn line :: closeLines rest

/-- The lines of a text. -/
def lines (cs : List Char) : List (List Char) := closeLines (segments '\n' cs)

end GraphIngest.Text
