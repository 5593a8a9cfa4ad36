import GraphIngest.Settings.Value
import GraphIngest.Text.LetterTable

/-!
# Settings in JSON5

JSON with comments, keys without quotes, texts in single quotes that may go over lines by a
backslash, commas behind the last item, hexadecimal integers of 32 bits, and decimals with a sign or
without a digit on one side of the point. Of a repeated key the last value counts.
-/

namespace GraphIngest.Setting.Json5

/-! ## White space -/

/-- A line break. -/
def isBreak (c : Char) : Bool := c = '\n' || c = '\r' || c = '\u2028' || c = '\u2029'

/-- Spaces of any width. -/
def spaceRanges : List Text.CharRange :=
  [(0x20, 0x20), (0xA0, 0xA0), (0x1680, 0x1680), (0x2000, 0x200A), (0x202F, 0x202F),
   (0x205F, 0x205F), (0x3000, 0x3000)]

/-- White space between tokens. -/
def isSpace (c : Char) : Bool :=
  isBreak c || c = '\t' || c = '\x0b' || c = '\x0c' || c = '\uFEFF' || Text.inRanges spaceRanges c

/-- What follows the end of a comment that goes over lines. -/
def closeComment? : List Char → Option (List Char)
  | '*' :: '/' :: cs => some cs
  | _ :: cs => closeComment? cs
  | [] => none

/-- Passes over white space and comments; the fuel is more than the length of the text. -/
def skip : Nat → List Char → List Char
  | 0, cs => cs
  | fuel + 1, cs =>
    match cs.dropWhile isSpace with
    | '/' :: '/' :: rest => skip fuel (rest.dropWhile (!isBreak ·))
    | '/' :: '*' :: rest =>
      match closeComment? rest with
      | some rest => skip fuel rest
      | none => '/' :: '*' :: rest
    | rest => rest

/-- Passes over white space and comments. -/
def skipSpace (cs : List Char) : List Char := skip (cs.length + 1) cs

/-! ## Texts and keys -/

/-- A character, or a unit of sixteen bits by its number. -/
inductive TextUnit where
  | char (c : Char)
  | code (n : Nat)
  deriving DecidableEq, Repr

/-- The characters of units; a pair of surrogates is one character. -/
def joinUnits? : List TextUnit → Option (List Char)
  | [] => some []
  | .char c :: us => (joinUnits? us).map (c :: ·)
  | .code n :: us =>
    if n.isValidChar then (joinUnits? us).map (Char.ofNat n :: ·)
    else match us with
      | .code m :: us =>
        if n < 0xDC00 && 0xDC00 ≤ m && m < 0xE000 then
          (joinUnits? us).map (Char.ofNat (0x10000 + (n - 0xD800) * 0x400 + (m - 0xDC00)) :: ·)
        else none
      | _ => none

/-- Reads a number of a fixed count of hexadecimal digits. -/
def readHex (count : Nat) (cs : List Char) : Option (Nat × List Char) :=
  if cs.length < count then none
  else (digitsValue? 16 (cs.take count)).map fun n => (n, cs.drop count)

/-- The character of an escape of one letter. -/
def letterEscape (c : Char) : Char :=
  if c = 'b' then '\x08'
  else if c = 'f' then '\x0c'
  else if c = 'n' then '\n'
  else if c = 'r' then '\r'
  else if c = 't' then '\t'
  else if c = 'v' then '\x0b'
  else c

/-- Reads an escape behind its backslash: nothing for a line break, else one unit. -/
def readEscape : List Char → Option (List TextUnit × List Char)
  | [] => none
  | '\r' :: '\n' :: cs => some ([], cs)
  | c :: cs =>
    if isBreak c then some ([], cs)
    else if c = '0' then some ([.char '\x00'], cs)
    else if c = 'x' then (readHex 2 cs).map fun (n, cs) => ([.code n], cs)
    else if c = 'u' then (readHex 4 cs).map fun (n, cs) => ([.code n], cs)
    else if c.isDigit then none
    else some ([.char (letterEscape c)], cs)

/-- Reads the units of a text up to its closing quote; the fuel is more than the length of the
text. -/
def readUnits (quote : Char) : Nat → List Char → Option (List TextUnit × List Char)
  | 0, _ => none
  | _, [] => none
  | fuel + 1, c :: cs =>
    if c = quote then some ([], cs)
    else if c = '\\' then do
      let (found, cs) ← readEscape cs
      let (us, rest) ← readUnits quote fuel cs
      return (found ++ us, rest)
    else if isBreak c then none
    else do
      let (us, rest) ← readUnits quote fuel cs
      return (.char c :: us, rest)

/-- Reads a text behind its opening quote. -/
def readText (quote : Char) (cs : List Char) : Option (String × List Char) := do
  let (us, rest) ← readUnits quote (cs.length + 1) cs
  return (String.ofList (← joinUnits? us), rest)

/-- The character begins a name. -/
def beginsName (c : Char) : Bool := c = '$' || c = '_' || Text.inRanges Text.letterRanges c

/-- The character goes on with a name. -/
def continuesName (c : Char) : Bool :=
  beginsName c || Text.inRanges Text.wordPartRanges c || c = '\u200c' || c = '\u200d'

/-- Reads the units of a name; the fuel is more than the length of the text. -/
def readNameUnits : Nat → Bool → List Char → List TextUnit × List Char
  | 0, _, cs => ([], cs)
  | fuel + 1, first, cs =>
    match cs with
    | '\\' :: 'u' :: rest =>
      match readHex 4 rest with
      | some (n, rest) =>
        let (us, rest) := readNameUnits fuel false rest
        (.code n :: us, rest)
      | none => ([], cs)
    | c :: rest =>
      if if first then beginsName c else continuesName c then
        let (us, rest) := readNameUnits fuel false rest
        (.char c :: us, rest)
      else ([], cs)
    | [] => ([], [])

/-- Reads a key. -/
def readKey : List Char → Option (String × List Char)
  | '"' :: cs => readText '"' cs
  | '\'' :: cs => readText '\'' cs
  | cs => do
    let (us, rest) := readNameUnits (cs.length + 1) true cs
    if us.isEmpty then none else return (String.ofList (← joinUnits? us), rest)

/-! ## Numbers -/

/-- Takes the digits in front. -/
def splitDigits (cs : List Char) : List Char × List Char :=
  (cs.takeWhile Char.isDigit, cs.dropWhile Char.isDigit)

/-- Takes an exponent, if there is a whole one in front. -/
def splitExponent (cs : List Char) : List Char × List Char :=
  match cs with
  | e :: rest =>
    if e = 'e' || e = 'E' then
      let (sign, rest) := match rest with
        | '+' :: rest => (['+'], rest)
        | '-' :: rest => (['-'], rest)
        | rest => ([], rest)
      match splitDigits rest with
      | ([], _) => ([], cs)
      | (ds, rest) => (e :: sign ++ ds, rest)
    else ([], cs)
  | [] => ([], [])

/-- Takes the digits of a decimal before the point: a zero alone, or digits that begin with another
one. -/
def splitWhole (cs : List Char) : List Char × List Char :=
  match cs with
  | '0' :: rest => (['0'], rest)
  | cs => splitDigits cs

/-- Takes a decimal, with whether it is written as an integer. -/
def splitDecimal? (cs : List Char) : Option (List Char × Bool × List Char) :=
  let (whole, rest) := splitWhole cs
  match rest with
  | '.' :: rest =>
    let (part, rest) := splitDigits rest
    let (e, rest) := splitExponent rest
    if whole.isEmpty && part.isEmpty then none else some (whole ++ '.' :: part ++ e, false, rest)
  | rest =>
    let (e, rest) := splitExponent rest
    if whole.isEmpty then none else some (whole ++ e, e.isEmpty, rest)

/-- A finite number of decimal digits. -/
def finite? (cs : List Char) : Option Setting :=
  match ofNumberText? cs with
  | some (float x) => some (float x)
  | _ => none

/-- Reads a number without its sign. A sign does not go with a hexadecimal one, nor a plus sign with
infinity or no number. -/
def readUnsigned (sign : List Char) (cs : List Char) : Option (Setting × List Char) :=
  match cs with
  | '0' :: x :: h :: rest =>
    if (x = 'x' || x = 'X') && (hexValue? h).isSome then do
      let ds := (h :: rest).takeWhile fun c => (hexValue? c).isSome
      let n ← digitsValue? 16 ds
      if sign.isEmpty && n < 2 ^ 32 then some (integer n, (h :: rest).drop ds.length) else none
    else decimal
  | _ => decimal
where
  /-- A decimal, infinity or no number. -/
  decimal : Option (Setting × List Char) :=
    let word (name : String) := name.toList.isPrefixOf cs
    match splitDecimal? cs with
    | some (ds, true, rest) => (ofIntegerText? (sign ++ ds)).map fun v => (v, rest)
    | some (ds, false, rest) => (finite? (sign ++ ds)).map fun v => (v, rest)
    | none =>
      if sign = ['+'] then none
      else if word "Infinity" then some (infinity (!sign.isEmpty), cs.drop 8)
      else if word "NaN" then some (notANumber, cs.drop 3)
      else none

/-- Reads a number. -/
def readNumber : List Char → Option (Setting × List Char)
  | '+' :: cs => readUnsigned ['+'] cs
  | '-' :: cs => readUnsigned ['-'] cs
  | cs => readUnsigned [] cs

/-! ## Values -/

/-- The words that are values. -/
def words : List (List Char × Setting) :=
  [("null".toList, absent), ("true".toList, bool true), ("false".toList, bool false)]

/-- Reads a word. -/
def readWord (cs : List Char) : Option (Setting × List Char) :=
  (words.find? fun w => w.1.isPrefixOf cs).map fun w => (w.2, cs.drop w.1.length)

/-- Passes over the comma before an entry that is not the first one. -/
def separated (first : Bool) (cs : List Char) : Option (List Char) :=
  if first then some cs
  else match cs with
    | ',' :: rest => some (skipSpace rest)
    | _ => none

mutual

/-- Reads a value in front of a text; the fuel is more than the length of the text. -/
def readValue : Nat → List Char → Option (Setting × List Char)
  | 0, _ => none
  | fuel + 1, cs =>
    match cs with
    | '"' :: rest => (readText '"' rest).map fun (s, rest) => (text s, rest)
    | '\'' :: rest => (readText '\'' rest).map fun (s, rest) => (text s, rest)
    | '[' :: rest => (readItems fuel true rest).map fun (items, rest) => (list items, rest)
    | '\x7b' :: rest => (readMembers fuel true rest).map fun (ms, rest) => (ofMembers ms, rest)
    | _ => (readWord cs).or (readNumber cs)

/-- Reads the items of a list up to its bracket; a comma may stand behind the last one. -/
def readItems : Nat → Bool → List Char → Option (List Setting × List Char)
  | 0, _, _ => none
  | fuel + 1, first, cs =>
    match skipSpace cs with
    | ']' :: rest => some ([], rest)
    | cs => do
      match ← separated first cs with
      | ']' :: rest => some ([], rest)
      | cs => do
        let (v, rest) ← readValue fuel cs
        let (vs, rest) ← readItems fuel false rest
        return (v :: vs, rest)

/-- Reads the members of an object up to its brace; a comma may stand behind the last one. -/
def readMembers : Nat → Bool → List Char → Option (List (String × Setting) × List Char)
  | 0, _, _ => none
  | fuel + 1, first, cs =>
    match skipSpace cs with
    | '\x7d' :: rest => some ([], rest)
    | cs => do
      match ← separated first cs with
      | '\x7d' :: rest => some ([], rest)
      | cs => do
        let (key, rest) ← readKey cs
        match skipSpace rest with
        | ':' :: rest => do
          let (v, rest) ← readValue fuel (skipSpace rest)
          let (ms, rest) ← readMembers fuel false rest
          return ((key, v) :: ms, rest)
        | _ => none

end

/-- The value that a text is. -/
def ofText? (s : String) : Option Setting := do
  let cs := s.toList
  let (v, rest) ← readValue (cs.length + 1) (skipSpace cs)
  if (skipSpace rest).isEmpty then some v else none

end GraphIngest.Setting.Json5
