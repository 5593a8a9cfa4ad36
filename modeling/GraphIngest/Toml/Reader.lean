import GraphIngest.Toml.Scalar
import GraphIngest.Toml.Table
import GraphIngest.Toml.Text

/-!
# Reading TOML

A document is a list of lines: a key with its value, the header of a table, or nothing but a
comment. A list may go over several lines; a table that is written in place may not.
`membersOfText?` returns nothing for a text that is not well-formed, or that defines a key or a
table twice.
-/

namespace GraphIngest.Toml

/-- Lists and tables that are written in place nest at most this deep. -/
def nestingLimit : Nat := 79

mutual

/-- Reads a value; the fuel is more than the length of the text. -/
def readValue : Nat → Nat → List Char → Option (Setting × List Char)
  | 0, _, _ => none
  | fuel + 1, levels, cs =>
    match cs with
    | '"' :: _ | '\'' :: _ => (readText cs).map fun (s, rest) => (.text (String.ofList s), rest)
    | '[' :: rest =>
      match levels with
      | 0 => none
      | levels + 1 => do
        let (items, rest) ← readItems fuel levels rest
        return (.list items, rest)
    | '\x7b' :: rest =>
      match levels with
      | 0 => none
      | levels + 1 =>
        match skipBlanks rest with
        | '\x7d' :: rest => some (.table [], rest)
        | rest => do
          let (ms, rest) ← readMembers fuel levels [] rest
          return (.table (memberSettings ms), rest)
    | _ => readWord cs

/-- Reads the items of a list up to its closing bracket. -/
def readItems : Nat → Nat → List Char → Option (List Setting × List Char)
  | 0, _, _ => none
  | fuel + 1, levels, cs =>
    match skipLines (cs.length + 1) cs with
    | ']' :: rest => some ([], rest)
    | cs => do
      let (v, rest) ← readValue fuel levels cs
      match skipLines (rest.length + 1) rest with
      | ',' :: rest => do
        let (vs, rest) ← readItems fuel levels rest
        return (v :: vs, rest)
      | ']' :: rest => return ([v], rest)
      | _ => none

/-- Reads the members of a table that is written in place up to its closing brace. -/
def readMembers : Nat → Nat → Members → List Char → Option (Members × List Char)
  | 0, _, _, _ => none
  | fuel + 1, levels, ms, cs => do
    let (path, rest) ← readKey cs
    let rest ← readMark '=' rest
    let (v, rest) ← readValue fuel levels (skipBlanks rest)
    let ms ← ms.assign path v
    match skipBlanks rest with
    | ',' :: rest => readMembers fuel levels ms rest
    | '\x7d' :: rest => return (ms, rest)
    | _ => none

end

/-- What a line says. -/
inductive Line where
  | nothing
  | assignment (path : List String) (value : Setting)
  | header (path : List String)
  | listHeader (path : List String)

/-- Reads what a line says, up to the blanks or the comment behind it. -/
def readLine (cs : List Char) : Option (Line × List Char) :=
  match skipBlanks cs with
  | [] => some (.nothing, [])
  | '[' :: '[' :: rest => do
    let (path, rest) ← readKey rest
    return (.listHeader path, ← readMark ']' (← readMark ']' rest))
  | '[' :: rest => do
    let (path, rest) ← readKey rest
    return (.header path, ← readMark ']' rest)
  | c :: rest =>
    if c = '#' || c = '\n' || c = '\r' then some (.nothing, c :: rest)
    else do
      let (path, rest) ← readKey (c :: rest)
      let rest ← readMark '=' rest
      let (v, rest) ← readValue (rest.length + 2) nestingLimit (skipBlanks rest)
      return (.assignment path v, rest)

/-- A document that is being read: its members, and the header of the table that keys go to. -/
structure Document where
  members : Members
  header : List String

/-- Does what a line says. -/
def Document.apply (d : Document) : Line → Option Document
  | .nothing => some d
  | .assignment path v => do return { d with members := ← d.members.assignIn d.header path v }
  | .header path => do return ⟨← d.members.define path, path⟩
  | .listHeader path => do return ⟨← d.members.append path, path⟩

/-- Reads the lines of a document; the fuel is more than the length of the text. -/
def readLines : Nat → Document → List Char → Option Document
  | 0, _, _ => none
  | fuel + 1, d, cs => do
    let (line, rest) ← readLine cs
    let d ← d.apply line
    match skipComment (skipBlanks rest) with
    | [] => return d
    | rest => readLines fuel d (← readBreak rest)

/-- The members of the document that a text is. -/
def membersOfText? (s : String) : Option (List (String × Setting)) := do
  let cs := match s.toList with
    | '\uFEFF' :: r => r
    | r => r
  let d ← readLines (cs.length + 1) ⟨[], []⟩ cs
  return memberSettings d.members

end GraphIngest.Toml
