import GraphIngest.Settings.Value
import GraphIngest.Text.Blank

/-!
# Settings in sections

A name in brackets begins a section, and a key gets its value behind an equals sign or a colon. A
key may go over several lines; a value ends with its line, unless it stands between quotes. A
backslash escapes a character wherever a name, a key or a value stands. A comment takes a line from
its first column on. All values are texts. Keys before the first section belong to no section.
-/

namespace GraphIngest.Setting.Ini

/-- The character of an escape of one letter. -/
def escapedChar (c : Char) : Char :=
  if c = '0' then '\x00'
  else if c = 'a' then '\x07'
  else if c = 'b' then '\x08'
  else if c = 't' then '\t'
  else if c = 'r' then '\r'
  else if c = 'n' then '\n'
  else c

/-- The character of an escape by code point: hexadecimal digits, of which the first may be a plus
sign. -/
def codeChar? (cs : List Char) : Option Char := do
  let n ← digitsValue? 16 (match cs with
    | '+' :: ds => ds
    | ds => ds)
  if n.isValidChar then some (Char.ofNat n) else none

/-- Reads a text up to a character that ends it. Where the text of the file ends before, there is a
text only if `open?` holds; a backslash at the end of a line joins the next line. -/
def readUntil (ends : Char → Bool) (open? : Bool) : List Char → Option (List Char × List Char)
  | [] => if open? then some ([], []) else none
  | '\\' :: 'x' :: a :: b :: c :: d :: rest => do
    let e ← codeChar? [a, b, c, d]
    let (s, rest) ← readUntil ends open? rest
    return (e :: s, rest)
  | '\\' :: e :: rest => do
    if e = 'x' then none
    let (s, rest) ← readUntil ends open? rest
    return (if e = '\n' then s else escapedChar e :: s, rest)
  | c :: rest => do
    if c = '\\' then none
    else if ends c then some ([], c :: rest)
    else
      let (s, rest) ← readUntil ends open? rest
      return (c :: s, rest)

/-- The character ends a line. -/
def endsLine (c : Char) : Bool := c = '\n' || c = '\r'

/-- The character ends a key. -/
def endsKey (c : Char) : Bool := c = '=' || c = ':'

/-- Reads a value: texts between quotes, and what stands behind them on the line, without the blanks
at its ends; `first` when nothing was read before. The fuel is more than the length of the text. -/
def readValue : Nat → Bool → List Char → Option (List Char × List Char)
  | 0, _, _ => none
  | _, _, [] => some ([], [])
  | fuel + 1, first, c :: cs =>
    if c = '"' || c = '\'' then do
      let (s, rest) ← readUntil (· = c) false cs
      let (more, rest) ← readValue fuel false (rest.drop 1)
      return (s ++ more, rest)
    else do
      let (s, rest) ← readUntil endsLine true (c :: cs)
      return (if first then Text.trimChars s else Text.trimEnd s, rest)

/-- The entries that were read: the members beside the sections, and the sections. -/
structure Document where
  general : List (String × Setting)
  sections : List (String × Setting)

namespace Document

/-- Begins a section; one of that name begins anew. -/
def enter (d : Document) (name : String) : Document :=
  { d with sections := insert d.sections name (table []) }

/-- Gives a key its value in a section, or beside the sections. -/
def put (d : Document) (section? : Option String) (key value : String) : Document :=
  match section? with
  | none => { d with general := insert d.general key (text value) }
  | some name =>
    let inner := match find? d.sections name with
      | some (table inner) => inner
      | _ => []
    { d with sections := insert d.sections name (table (insert inner key (text value))) }

/-- The members of the document; a section stands in for a key of its name. -/
def members (d : Document) : List (String × Setting) :=
  d.sections.foldl (fun ms m => insert ms m.1 m.2) d.general

end Document

/-- Passes over blanks; tells of the place behind them whether it begins a line, given that of the
place before them. -/
def skipBlanks (fresh : Bool) (cs : List Char) : Bool × List Char :=
  let fresh := match (cs.takeWhile Text.isBlank).getLast? with
    | some c => c = '\n'
    | none => fresh
  (fresh, cs.dropWhile Text.isBlank)

/-- Adds the entries of a text to a document; `fresh` at the begin of a line. The fuel is more than
the length of the text. -/
def readEntries : Nat → Bool → Option String → Document → List Char → Option Document
  | 0, _, _, _, _ => none
  | fuel + 1, fresh, section?, d, cs =>
    let (fresh, cs) := skipBlanks fresh cs
    match cs with
    | [] => some d
    | c :: rest =>
      if c = ';' || c = '#' then
        if fresh then readEntries fuel true section? d ((rest.dropWhile (· ≠ '\n')).drop 1)
        else none
      else if c = '[' then do
        let (name, rest) ← readUntil (· = ']') false rest
        let name := String.ofList (Text.trimChars name)
        readEntries fuel false (some name) (d.enter name) (rest.drop 1)
      else do
        let (key, rest) ← readUntil endsKey false (c :: rest)
        let key := String.ofList (Text.trimChars key)
        if key.isEmpty then none
        let line := (rest.drop 1).dropWhile fun c => Text.isBlank c && !endsLine c
        let (value, rest) ← readValue (line.length + 1) true line
        readEntries fuel false section? (d.put section? key (String.ofList value)) rest

/-- The settings that a text holds. -/
def membersOfText? (s : String) : Option (List (String × Setting)) := do
  let cs := s.toList
  let d ← readEntries (cs.length + 1) true none ⟨[], []⟩ cs
  return d.members

end GraphIngest.Setting.Ini
