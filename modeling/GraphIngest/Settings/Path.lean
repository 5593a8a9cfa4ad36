import GraphIngest.Settings.Value
import GraphIngest.Text.Lines

/-!
# Paths of settings

A key of the form `a.b[0]` is the path to a value in a tree of tables and lists. Assigning at a path
makes the tables and lists on the way; a table that is assigned is merged into the table that is
there. Keys do not tell letter case.
-/

namespace GraphIngest.Setting

/-- A step into a table or into a list. -/
inductive Step where
  | key (name : String)
  | index (position : Int)
  deriving DecidableEq, Repr

namespace Step

/-- The characters of a key that can stand in a path. -/
def isKeyChar (c : Char) : Bool := c.isAlphanum || c = ' ' || c = '_' || c = '-'

/-- Reads a key in front of a text. -/
def readKey (cs : List Char) : Option (Step × List Char) :=
  let name := cs.takeWhile isKeyChar
  if name.isEmpty then none else some (key (String.ofList name), cs.dropWhile isKeyChar)

/-- A blank around a position. -/
def isBlankChar (c : Char) : Bool := c = ' ' || c = '\t'

/-- Reads a position of 64 bits up to its closing bracket. -/
def readIndex (cs : List Char) : Option (Step × List Char) := do
  let cs := cs.dropWhile isBlankChar
  let (sign, body) := match cs with
    | '-' :: r => (['-'], r)
    | r => ([], r)
  let position ← int64? (sign ++ body.takeWhile Char.isDigit)
  match (body.dropWhile Char.isDigit).dropWhile isBlankChar with
  | ']' :: rest => some (index position, rest)
  | _ => none

/-- Reads the steps behind the first one; the fuel is the length of the text. -/
def readMore : Nat → List Char → Option (List Step)
  | _, [] => some []
  | fuel + 1, '.' :: cs => do
    let (step, rest) ← readKey cs
    return step :: (← readMore fuel rest)
  | fuel + 1, '[' :: cs => do
    let (step, rest) ← readIndex cs
    return step :: (← readMore fuel rest)
  | _, _ => none

/-- The path that a key is; a key that is no path is a single step. -/
def path (s : String) : List Step :=
  let read := do
    let (step, rest) ← readKey s.toList
    return step :: (← readMore rest.length rest)
  read.getD [key s]

end Step

/-- The members of a table; anything else has none. -/
def tableMembers : Setting → List (String × Setting)
  | table ms => ms
  | _ => []

/-- The items of a list; anything else has none. -/
def listItems : Setting → List Setting
  | list items => items
  | _ => []

/-- The list in which a position is counted and the place it has there: the list grows at its end as
far as the position needs, or at its begin where a position from the end lies before it. -/
def reach (items : List Setting) (position : Int) : List Setting × Nat :=
  if 0 ≤ position then
    (items ++ List.replicate (position.toNat + 1 - items.length) absent, position.toNat)
  else
    (List.replicate (position.natAbs - items.length) absent ++ items,
      items.length - position.natAbs)

/-- Replaces the item at a position. -/
def setItem (items : List Setting) (position : Int) (update : Setting → Setting) : List Setting :=
  let (grown, i) := reach items position
  grown.modify i update

/-- The key under which a table keeps a value. -/
def storedKey (name : String) : String := Text.lowercase name

mutual

/-- Puts a value over another one: a table is merged into a table, anything else replaces. -/
def overlay (old : Setting) : Setting → Setting
  | table ms => table (overlayMembers old.tableMembers ms)
  | v => v

/-- Puts members over the members of a table. -/
def overlayMembers (old : List (String × Setting)) :
    List (String × Setting) → List (String × Setting)
  | [] => old
  | (name, v) :: ms =>
    let key := storedKey name
    overlayMembers (insert old key (overlay ((find? old key).getD absent) v)) ms

end

/-- Assigns a value at a path. An item of a list is replaced and never merged. -/
def assign (v : Setting) : List Step → Setting → Setting
  | [], old => overlay old v
  | .key name :: steps, old =>
    let ms := old.tableMembers
    let key := storedKey name
    table (insert ms key (assign v steps ((find? ms key).getD absent)))
  | [.index position], old => list (setItem old.listItems position fun _ => v)
  | .index position :: steps, old => list (setItem old.listItems position (assign v steps))

/-- Assigns the members of a source, whose keys are paths, one after the other. -/
def assignAll (old : Setting) (ms : List (String × Setting)) : Setting :=
  ms.foldl (fun root m => assign m.2 (Step.path m.1) root) old

end GraphIngest.Setting
