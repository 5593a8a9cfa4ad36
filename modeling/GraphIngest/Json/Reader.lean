import GraphIngest.Decimal.Literal
import GraphIngest.Json.Tree

/-!
# Reading a JSON text into a tree

`Tree.ofText` reads one value and what stands behind it. The readers consume characters from the
front and return what they found with the rest of the text, or without a rest when the text stops
there. White space is the four characters space, tab, line feed and carriage return.
-/

namespace GraphIngest.Json

/-- A reader's find and the text behind it; no text when reading stops there. -/
abbrev Reading (α : Type) := α × Option (List Char)

/-- White space between tokens. -/
def isSpace (c : Char) : Bool := c = ' ' || c = '\n' || c = '\t' || c = '\r'

/-- Drops the white space in front. -/
def skipSpace (cs : List Char) : List Char := cs.dropWhile isSpace

/-! ## Numbers -/

/-- The greatest unsigned integer that is kept exactly. -/
def greatestInteger : Nat := 2 ^ 64 - 1

/-- Adds digits to a significand as long as it stays within 64 bits; returns the digits left. -/
def takeSignificand (significand : Nat) : List Char → Nat × List Char
  | [] => (significand, [])
  | d :: ds =>
    let next := significand * 10 + (d.toNat - 48)
    if next ≤ greatestInteger then takeSignificand next ds else (significand, d :: ds)

/-- Multiplies by a power of ten: one rounding within `10 ^ 308`, and steps of that size beyond. -/
def scaleByTen (x : Binary64) (exponent : Int) : Nat → Except Fault Binary64
  | 0 => .ok x
  | steps + 1 =>
    if exponent.natAbs ≤ 308 then
      if exponent ≥ 0 then
        match x.mul? (.powerOfTen exponent.toNat) with
        | some y => .ok y
        | none => .error (.malformed .numberOutOfRange)
      else .ok (x.div (.powerOfTen (-exponent).toNat))
    else if x.isZero then .ok x
    else if exponent ≥ 0 then .error (.malformed .numberOutOfRange)
    else scaleByTen (x.div (.powerOfTen 308)) (exponent + 308) steps

/-- The parts of a number literal. -/
structure NumberLiteral where
  negative : Bool
  whole : List Char
  part : List Char
  exponent : Option (Bool × List Char)

/-- The value of decimal digits. -/
def digitsValue (ds : List Char) : Nat := ds.foldl (fun n d => n * 10 + (d.toNat - 48)) 0

/-- The value of a literal. A whole number within 64 bits is an integer, minus zero excepted; any
other number takes its first digits up to 64 bits and is scaled by a power of ten. -/
def NumberLiteral.value (l : NumberLiteral) : Except Fault JsonNumber :=
  let (s, wholeLeft) := takeSignificand 0 l.whole
  let signed (x : Binary64) : JsonNumber := .float (if l.negative then x.neg else x)
  if wholeLeft.isEmpty && l.part.isEmpty && l.exponent.isNone then
    if !l.negative then .ok (.integer s)
    else if 0 < s && s ≤ 2 ^ 63 then .ok (.integer (-(s : Int)))
    else .ok (signed (.ofNat s))
  else
    let (s, partLeft) := takeSignificand s l.part
    let shift : Int := (wholeLeft.length : Int) - ((l.part.length - partLeft.length : Nat) : Int)
    match l.exponent with
    | none => (scaleByTen (.ofNat s) shift 4).map signed
    | some (negative, ds) =>
      let e := digitsValue ds
      if e ≥ 2 ^ 31 then
        if s ≠ 0 && !negative then .error (.malformed .numberOutOfRange)
        else .ok (signed .zero)
      else (scaleByTen (.ofNat s) (if negative then shift - e else shift + e) 4).map signed

/-- The fault of a number whose next digit is not there. -/
def missingDigit : List Char → Fault
  | [] => .ended .value
  | _ :: _ => .malformed .invalidNumber

/-- Reads the exponent of a number, if it has one. -/
def readExponent (cs : List Char) : Except Fault (Option (Bool × List Char) × List Char) :=
  match cs with
  | e :: rest =>
    if e = 'e' || e = 'E' then
      let (negative, rest) := match rest with
        | '+' :: r => (false, r)
        | '-' :: r => (true, r)
        | r => (false, r)
      let ds := rest.takeWhile Char.isDigit
      if ds.isEmpty then .error (missingDigit rest)
      else .ok (some (negative, ds), rest.dropWhile Char.isDigit)
    else .ok (none, cs)
  | [] => .ok (none, cs)

/-- Reads the digits behind a decimal point, if there is one. -/
def readPart (cs : List Char) : Except Fault (List Char × List Char) :=
  match cs with
  | '.' :: rest =>
    let ds := rest.takeWhile Char.isDigit
    if ds.isEmpty then .error (missingDigit rest) else .ok (ds, rest.dropWhile Char.isDigit)
  | _ => .ok ([], cs)

/-- Reads the digits before the decimal point: no digit may follow a leading zero. -/
def readWhole (cs : List Char) : Except Fault (List Char × List Char) :=
  let ds := cs.takeWhile Char.isDigit
  match ds with
  | [] => .error (missingDigit cs)
  | '0' :: _ :: _ => .error (.malformed .invalidNumber)
  | _ => .ok (ds, cs.dropWhile Char.isDigit)

/-- Reads the number that begins at the front. Whoever passes over a number does not tell a digit
that is missing at the end of the text from one that is missing before another character. -/
def readNumber (cs : List Char) : Reading Tree :=
  let (negative, body) := match cs with
    | '-' :: r => (true, r)
    | r => (false, r)
  let found : Except Fault (NumberLiteral × List Char) := do
    let (whole, rest) ← readWhole body
    let (part, rest) ← readPart rest
    let (exponent, rest) ← readExponent rest
    return (⟨negative, whole, part, exponent⟩, rest)
  match found with
  | .ok (l, rest) => (.number l.value, some rest)
  | .error f => (.cut f (.malformed .invalidNumber), none)

/-! ## Strings -/

/-- A unit of a string literal: a character, or a 16-bit code written with `\u`. -/
inductive StringUnit where
  | char (value : Char)
  | code (value : Nat)
  deriving DecidableEq, Repr

/-- The value of four hexadecimal digits. -/
def hexCode? (a b c d : Char) : Option Nat := do
  let a ← hexValue? a
  let b ← hexValue? b
  let c ← hexValue? c
  let d ← hexValue? d
  return ((a * 16 + b) * 16 + c) * 16 + d

/-- The character of an escape of two characters. -/
def shortEscape? (c : Char) : Option Char :=
  if c = '"' || c = '\\' || c = '/' then some c
  else if c = 'b' then some '\x08'
  else if c = 'f' then some '\x0c'
  else if c = 'n' then some '\n'
  else if c = 'r' then some '\r'
  else if c = 't' then some '\t'
  else none

/-- The number of bytes of a text. -/
def byteLength (cs : List Char) : Nat := cs.foldl (fun n c => n + c.utf8Size) 0

/-- Reads the units of a string literal up to its closing quote. -/
def readUnits : List Char → List StringUnit × Option Fault × Option (List Char)
  | [] => ([], some (.ended .string), none)
  | c :: rest =>
    if c = '"' then ([], none, some rest)
    else if c = '\\' then
      match rest with
      | [] => ([], some (.ended .string), none)
      | e :: rest =>
        if e = 'u' then
          match rest with
          | a :: b :: c :: d :: rest =>
            match hexCode? a b c d with
            | some n =>
              let (us, f, r) := readUnits rest
              (.code n :: us, f, r)
            | none => ([], some (.malformed .invalidEscape), none)
          | short =>
            ([], some (if byteLength short < 4 then .ended .string else .malformed .invalidEscape),
              none)
        else
          match shortEscape? e with
          | some v =>
            let (us, f, r) := readUnits rest
            (.char v :: us, f, r)
          | none => ([], some (.malformed .invalidEscape), none)
    else if c.toNat < 0x20 then ([], some (.malformed .controlCharacter), none)
    else
      let (us, f, r) := readUnits rest
      (.char c :: us, f, r)

/-- The characters of the units, where a surrogate pair is one character; `end?` is the fault behind
the last unit. -/
def joinUnits (end? : Option Fault) : List StringUnit → Except Fault (List Char)
  | [] => match end? with
    | none => .ok []
    | some f => .error f
  | .char c :: us => (joinUnits end? us).map (c :: ·)
  | .code n :: us =>
    if 0xDC00 ≤ n && n ≤ 0xDFFF then .error (.malformed .loneSurrogate)
    else if 0xD800 ≤ n && n ≤ 0xDBFF then
      match us with
      | [] => .error (end?.getD (.malformed .unfinishedSurrogate))
      | .char _ :: _ => .error (.malformed .unfinishedSurrogate)
      | .code m :: us =>
        if 0xDC00 ≤ m && m ≤ 0xDFFF then
          let c := Char.ofNat (0x10000 + (n - 0xD800) * 0x400 + (m - 0xDC00))
          (joinUnits end? us).map (c :: ·)
        else .error (.malformed .loneSurrogate)
    else (joinUnits end? us).map (Char.ofNat n :: ·)

/-- Reads a string literal behind its opening quote. -/
def readString (cs : List Char) : Reading StringToken :=
  let (units, fault?, rest) := readUnits cs
  (⟨(joinUnits fault? units).map String.ofList, fault?⟩, rest)

/-! ## Values -/

/-- Reads the letters of a literal name behind its first one. -/
def readLetters (found : Tree) : List Char → List Char → Reading Tree
  | [], cs => (found, some cs)
  | _ :: _, [] => (.cut (.ended .value) (.ended .value), none)
  | l :: ls, c :: cs =>
    if c = l then readLetters found ls cs
    else (.cut (.malformed .expectedIdent) (.malformed .expectedIdent), none)

mutual

/-- Reads the value behind the white space in front. -/
def readValue : Nat → List Char → Reading Tree
  | 0, _ => (.missing (.ended .value), none)
  | fuel + 1, cs =>
    match skipSpace cs with
    | [] => (.missing (.ended .value), none)
    | c :: rest =>
      if c = 'n' then readLetters .null ['u', 'l', 'l'] rest
      else if c = 't' then readLetters (.bool true) ['r', 'u', 'e'] rest
      else if c = 'f' then readLetters (.bool false) ['a', 'l', 's', 'e'] rest
      else if c = '"' then
        let (token, rest) := readString rest
        (.string token, rest)
      else if c = '[' then
        let (items, ending, rest) := readItems fuel true rest
        (.array items ending, rest)
      else if c = '\x7b' then
        let (members, ending, rest) := readMembers fuel true rest
        (.object members ending, rest)
      else if c = '-' || c.isDigit then readNumber (c :: rest)
      else (.missing (.malformed .expectedValue), none)

/-- Reads the items of an array; `first` when no item was read before. -/
def readItems : Nat → Bool → List Char → List Tree × Ending × Option (List Char)
  | 0, _, _ => ([], .ended, none)
  | fuel + 1, first, cs =>
    match skipSpace cs with
    | [] => ([], .ended, none)
    | c :: rest =>
      if c = ']' then ([], .closed, some rest)
      else if first then readItem fuel (c :: rest)
      else if c = ',' then
        match skipSpace rest with
        | [] => ([], .endedAfterComma, none)
        | d :: rest =>
          if d = ']' then ([], .trailingComma, none) else readItem fuel (d :: rest)
      else ([], .noSeparator, none)

/-- Reads one item of an array and the items behind it. -/
def readItem : Nat → List Char → List Tree × Ending × Option (List Char)
  | 0, _ => ([], .ended, none)
  | fuel + 1, cs =>
    match readValue fuel cs with
    | (t, none) => ([t], .closed, none)
    | (t, some rest) =>
      let (ts, ending, rest) := readItems fuel false rest
      (t :: ts, ending, rest)

/-- Reads the members of an object; `first` when no member was read before. -/
def readMembers : Nat → Bool → List Char → List (Tree × Tree) × Ending × Option (List Char)
  | 0, _, _ => ([], .ended, none)
  | fuel + 1, first, cs =>
    match skipSpace cs with
    | [] => ([], .ended, none)
    | c :: rest =>
      if c = '\x7d' then ([], .closed, some rest)
      else if first then readMember fuel (c :: rest)
      else if c = ',' then
        match skipSpace rest with
        | [] => ([], .endedAfterComma, none)
        | d :: rest =>
          if d = '\x7d' then ([], .trailingComma, none) else readMember fuel (d :: rest)
      else ([], .noSeparator, none)

/-- Reads one member of an object and the members behind it. -/
def readMember : Nat → List Char → List (Tree × Tree) × Ending × Option (List Char)
  | 0, _ => ([], .ended, none)
  | fuel + 1, cs =>
    match readValue fuel cs with
    | (.string key, none) => ([(.string key, .missing (.ended .object))], .closed, none)
    | (.string key, some rest) =>
      match skipSpace rest with
      | [] => ([(.string key, .missing (.ended .object))], .closed, none)
      | c :: rest =>
        if c = ':' then
          match readValue fuel rest with
          | (t, none) => ([(.string key, t)], .closed, none)
          | (t, some rest) =>
            let (ms, ending, rest) := readMembers fuel false rest
            ((.string key, t) :: ms, ending, rest)
        else ([(.string key, .missing (.malformed .expectedColon))], .closed, none)
    | (key, _) => ([(key, .missing (.malformed .keyNotString))], .closed, none)

end

/-- The fault behind the value of a text, if there is one: only white space may stand there. -/
def trailingFault? : Option (List Char) → Option Fault
  | none => none
  | some rest => match skipSpace rest with
    | [] => none
    | _ :: _ => some (.malformed .trailingCharacters)

/-- The value of a text, and the fault behind it. Each reader that calls another one either consumes
a character or is called right after one was seen, so three calls a character are enough. -/
def Tree.ofText (s : String) : Tree × Option Fault :=
  let cs := s.toList
  let (t, rest) := readValue (3 * cs.length + 3) cs
  (t, trailingFault? rest)

end GraphIngest.Json
