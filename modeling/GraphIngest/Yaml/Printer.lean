import GraphIngest.Yaml.Scalar

/-!
# Printing YAML

Values in block style: a member or an item a line, a list in the column of its key, and the first
member of a mapping in a list on the line of its dash.
-/

namespace GraphIngest

/-- A YAML value; keys are plain names. -/
inductive Yaml where
  | text (value : String)
  | integer (value : Nat)
  | list (items : List Yaml)
  | mapping (members : List (String × Yaml))
  deriving Repr, Inhabited

namespace Yaml

/-- A list of texts. -/
def texts (ss : List String) : Yaml := .list (ss.map .text)

mutual

/-- The value of a member of a mapping in a column. -/
def memberChars (column : Nat) : Yaml → List Char
  | .text s => ' ' :: endLine (scalar (column + 2) s)
  | .integer n => ' ' :: Nat.toDigits 10 n ++ ['\n']
  | .list [] => [' ', '[', ']', '\n']
  | .list (y :: ys) => '\n' :: itemsChars column (y :: ys)
  | .mapping [] => [' ', '\x7b', '\x7d', '\n']
  | .mapping (m :: ms) => '\n' :: membersChars (column + 2) (m :: ms)

/-- The members of a mapping in a column. -/
def membersChars (column : Nat) : List (String × Yaml) → List Char
  | [] => []
  | (k, y) :: ms =>
    spaces column ++ k.toList ++ ':' :: memberChars column y ++ membersChars column ms

/-- The items of a list in a column. -/
def itemsChars (column : Nat) : List Yaml → List Char
  | [] => []
  | y :: ys => spaces column ++ '-' :: itemChars column y ++ itemsChars column ys

/-- An item behind its dash. -/
def itemChars (column : Nat) : Yaml → List Char
  | .text s => ' ' :: endLine (scalar (column + 2) s)
  | .integer n => ' ' :: Nat.toDigits 10 n ++ ['\n']
  | .list [] => [' ', '[', ']', '\n']
  | .list (y :: ys) => '\n' :: itemsChars (column + 2) (y :: ys)
  | .mapping [] => [' ', '\x7b', '\x7d', '\n']
  | .mapping ((k, y) :: ms) =>
    ' ' :: k.toList ++ ':' :: memberChars (column + 2) y ++ membersChars (column + 2) ms

end

/-- The text of a mapping. -/
def print (members : List (String × Yaml)) : String := String.ofList (membersChars 0 members)

end Yaml

end GraphIngest
