import GraphIngest.Decimal.Literal

/-!
# Texts and keys of TOML

A text stands between quotes: double ones around characters and escapes, single ones around plain
characters, and three of a kind around several lines. A line break right behind three quotes does
not count, and neither do the blanks and line breaks behind a backslash at the end of a line. Keys
are bare words or texts of one line, with points between them.
-/

namespace GraphIngest.Toml

/-- Blanks within a line. -/
def isBlankChar (c : Char) : Bool := c = ' ' || c = '\t'

/-- Passes over blanks. -/
def skipBlanks (cs : List Char) : List Char := cs.dropWhile isBlankChar

/-- A character that may stand in a comment or a text as it is. -/
def isPlainChar (c : Char) : Bool := c = '\t' || (' ' ≤ c && c.toNat ≠ 0x7F)

/-- Passes over a line break. -/
def readBreak : List Char → Option (List Char)
  | '\n' :: cs => some cs
  | '\r' :: '\n' :: cs => some cs
  | _ => none

/-- Passes over a comment up to its line break. -/
def skipComment (cs : List Char) : List Char :=
  match cs with
  | '#' :: r => r.dropWhile isPlainChar
  | r => r

/-- Passes over blanks, line breaks and comments; the fuel is more than the length of the text. -/
def skipLines : Nat → List Char → List Char
  | 0, cs => cs
  | fuel + 1, cs =>
    let cs := skipComment (skipBlanks cs)
    match readBreak cs with
    | some r => skipLines fuel r
    | none => cs

/-- The character of a short escape. -/
def shortEscape? (c : Char) : Option Char :=
  if c = '"' || c = '\\' then some c
  else if c = 'b' then some '\x08'
  else if c = 'f' then some '\x0c'
  else if c = 'n' then some '\n'
  else if c = 'r' then some '\r'
  else if c = 't' then some '\t'
  else none

/-- The number of digits of an escape by code point. -/
def codeWidth? (c : Char) : Option Nat :=
  if c = 'u' then some 4 else if c = 'U' then some 8 else none

/-- Reads what stands behind the backslash of an escape. -/
def readEscape : List Char → Option (Char × List Char)
  | [] => none
  | c :: cs =>
    match shortEscape? c, codeWidth? c with
    | some e, _ => some (e, cs)
    | none, some width => do
      if (cs.take width).length < width then none
      let n ← digitsValue? 16 (cs.take width)
      if n.isValidChar then some (Char.ofNat n, cs.drop width) else none
    | none, none => none

/-- Reads a text up to its closing double quote; the fuel is more than the length of the text. -/
def readBasic : Nat → List Char → Option (List Char × List Char)
  | 0, _ => none
  | _, [] => none
  | fuel + 1, c :: cs =>
    if c = '"' then some ([], cs)
    else if c = '\\' then do
      let (e, rest) ← readEscape cs
      let (s, rest) ← readBasic fuel rest
      return (e :: s, rest)
    else if isPlainChar c then do
      let (s, rest) ← readBasic fuel cs
      return (c :: s, rest)
    else none

/-- Reads a text up to its closing single quote. -/
def readLiteral (cs : List Char) : Option (List Char × List Char) :=
  let s := cs.takeWhile fun c => isPlainChar c && c ≠ '\''
  match cs.drop s.length with
  | '\'' :: rest => some (s, rest)
  | _ => none

/-- The end of a text between three quotes each: up to two more of them belong to the text. -/
def closing? (quote : Char) (cs : List Char) : Option (List Char × List Char) :=
  let count := (cs.takeWhile (· = quote)).length
  if count < 3 then none
  else some (List.replicate (min (count - 3) 2) quote, cs.drop (min count 5))

/-- What stands behind a backslash that ends a line, if the line ends there. -/
def continued? (cs : List Char) : Option (List Char) :=
  (readBreak (skipBlanks cs)).map fun r =>
    r.dropWhile fun c => isBlankChar c || c = '\n' || c = '\r'

/-- Reads a text of several lines; the fuel is more than the length of the text. -/
def readLong (quote : Char) : Nat → List Char → Option (List Char × List Char)
  | 0, _ => none
  | _, [] => none
  | fuel + 1, c :: cs =>
    match closing? quote (c :: cs), readBreak (c :: cs) with
    | some found, _ => some found
    | none, some rest => do
      let (s, rest) ← readLong quote fuel rest
      return ('\n' :: s, rest)
    | none, none =>
      if quote = '"' && c = '\\' then
        match continued? cs with
        | some rest => readLong quote fuel rest
        | none => do
          let (e, rest) ← readEscape cs
          let (s, rest) ← readLong quote fuel rest
          return (e :: s, rest)
      else if isPlainChar c then do
        let (s, rest) ← readLong quote fuel cs
        return (c :: s, rest)
      else none

/-- Reads a text of several lines behind its opening quotes. -/
def readLongText (quote : Char) (cs : List Char) : Option (List Char × List Char) :=
  let body := (readBreak cs).getD cs
  readLong quote (body.length + 1) body

/-- Reads a text of one line. -/
def readLineText : List Char → Option (List Char × List Char)
  | '"' :: cs => readBasic (cs.length + 1) cs
  | '\'' :: cs => readLiteral cs
  | _ => none

/-- Reads a text. -/
def readText : List Char → Option (List Char × List Char)
  | '"' :: '"' :: '"' :: cs => readLongText '"' cs
  | '\'' :: '\'' :: '\'' :: cs => readLongText '\'' cs
  | cs => readLineText cs

/-- The characters of a bare key. -/
def isKeyChar (c : Char) : Bool := c.isAlphanum || c = '_' || c = '-'

/-- Reads one part of a key. -/
def readKeyPart (cs : List Char) : Option (String × List Char) :=
  let bare := cs.takeWhile isKeyChar
  if bare.isEmpty then (readLineText cs).map fun (s, rest) => (String.ofList s, rest)
  else some (String.ofList bare, cs.dropWhile isKeyChar)

/-- Reads the parts of a key and the blanks around them; the fuel is more than the length of the
text. -/
def readKeyParts : Nat → List Char → Option (List String × List Char)
  | 0, _ => none
  | fuel + 1, cs => do
    let (part, rest) ← readKeyPart (skipBlanks cs)
    match skipBlanks rest with
    | '.' :: rest => do
      let (parts, rest) ← readKeyParts fuel rest
      return (part :: parts, rest)
    | rest => return ([part], rest)

/-- A key has fewer parts than this. -/
def keyPartLimit : Nat := 80

/-- Reads a key and the blanks around it. -/
def readKey (cs : List Char) : Option (List String × List Char) := do
  let (parts, rest) ← readKeyParts (cs.length + 1) cs
  if parts.length < keyPartLimit then some (parts, rest) else none

end GraphIngest.Toml
