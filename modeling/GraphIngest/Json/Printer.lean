import GraphIngest.Json.Value

/-!
# Printing JSON

Two layouts of a value: `compact` without any space, and `pretty` with one member or item a line,
indented by two spaces a level, where an empty array or object stays on its line. Strings escape
the quote, the backslash and the control characters below U+0020, and nothing else.
-/

namespace GraphIngest.Json

/-- One lower case hexadecimal digit. -/
def hexDigit (n : Nat) : Char := Nat.digitChar n

/-- One character of a string literal. -/
def escapeChar (c : Char) : List Char :=
  if c = '"' then ['\\', '"']
  else if c = '\\' then ['\\', '\\']
  else if c = '\x08' then ['\\', 'b']
  else if c = '\x0c' then ['\\', 'f']
  else if c = '\n' then ['\\', 'n']
  else if c = '\r' then ['\\', 'r']
  else if c = '\t' then ['\\', 't']
  else if c.toNat < 0x20 then
    ['\\', 'u', '0', '0', hexDigit (c.toNat / 16), hexDigit (c.toNat % 16)]
  else [c]

/-- A string literal. -/
def literal (s : String) : List Char := '"' :: s.toList.flatMap escapeChar ++ ['"']

mutual

/-- The compact text of a value. -/
def compactChars : Json → List Char
  | .null => ['n', 'u', 'l', 'l']
  | .bool true => ['t', 'r', 'u', 'e']
  | .bool false => ['f', 'a', 'l', 's', 'e']
  | .number n => n.text
  | .string s => literal s
  | .array items => '[' :: compactItems items ++ [']']
  | .object members => '\x7b' :: compactMembers members ++ ['\x7d']

/-- The items of an array, with commas between them. -/
def compactItems : List Json → List Char
  | [] => []
  | [j] => compactChars j
  | j :: js => compactChars j ++ ',' :: compactItems js

/-- The members of an object, with commas between them. -/
def compactMembers : List (String × Json) → List Char
  | [] => []
  | [(k, j)] => literal k ++ ':' :: compactChars j
  | (k, j) :: ms => literal k ++ ':' :: compactChars j ++ ',' :: compactMembers ms

end

/-- A line break and the indentation of a level. -/
def newLine (level : Nat) : List Char := '\n' :: List.replicate (2 * level) ' '

mutual

/-- The indented text of a value at a level. -/
def prettyChars (level : Nat) : Json → List Char
  | .null => ['n', 'u', 'l', 'l']
  | .bool true => ['t', 'r', 'u', 'e']
  | .bool false => ['f', 'a', 'l', 's', 'e']
  | .number n => n.text
  | .string s => literal s
  | .array [] => ['[', ']']
  | .array (j :: js) => '[' :: prettyItems (level + 1) (j :: js) ++ newLine level ++ [']']
  | .object [] => ['\x7b', '\x7d']
  | .object (m :: ms) =>
    '\x7b' :: prettyMembers (level + 1) (m :: ms) ++ newLine level ++ ['\x7d']

/-- The items of an array, each on a line of its own. -/
def prettyItems (level : Nat) : List Json → List Char
  | [] => []
  | [j] => newLine level ++ prettyChars level j
  | j :: js => newLine level ++ prettyChars level j ++ ',' :: prettyItems level js

/-- The members of an object, each on a line of its own. -/
def prettyMembers (level : Nat) : List (String × Json) → List Char
  | [] => []
  | [(k, j)] => newLine level ++ literal k ++ ':' :: ' ' :: prettyChars level j
  | (k, j) :: ms =>
    newLine level ++ literal k ++ ':' :: ' ' :: prettyChars level j ++ ',' ::
      prettyMembers level ms

end

/-- The text of a value without any space between its tokens. -/
def compact (j : Json) : String := String.ofList (compactChars j)

/-- The text of a value with a line for every member and item. -/
def pretty (j : Json) : String := String.ofList (prettyChars 0 j)

end GraphIngest.Json
