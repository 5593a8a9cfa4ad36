import GraphIngest.Json.Decoder
import GraphIngest.Text.Blank

/-!
# Points in time

A timestamp is a date and time of day in universal time with nanoseconds; second 60 is a leap
second. It is printed in the form of RFC 3339 with `Z`, and read from that form in a lenient way:
fields may have fewer digits, blank characters may stand between them, and any offset is turned
into universal time.
-/

namespace GraphIngest

/-- A date and time of day in universal time. -/
structure Timestamp where
  year : Int
  month : Nat
  day : Nat
  hour : Nat
  minute : Nat
  second : Nat
  nanosecond : Nat
  deriving DecidableEq, Repr, Inhabited

namespace Timestamp

/-- Why a text is no point in time. -/
inductive Fault where
  | tooShort
  | invalid
  | outOfRange
  | impossible
  | trailing
  deriving DecidableEq, Repr

/-- The message about a text that is no point in time. -/
def Fault.message : Fault → String
  | .tooShort => "premature end of input"
  | .invalid => "input contains invalid characters"
  | .outOfRange => "input is out of range"
  | .impossible => "no possible date and time matching input"
  | .trailing => "trailing input"

/-! ## The calendar -/

/-- A year with 366 days. -/
def isLeapYear (y : Int) : Bool := y % 4 = 0 && (y % 100 ≠ 0 || y % 400 = 0)

/-- The number of days of a month. -/
def daysInMonth (y : Int) (m : Nat) : Nat :=
  if m = 2 then (if isLeapYear y then 29 else 28)
  else if m = 4 || m = 6 || m = 9 || m = 11 then 30
  else 31

/-- The years that a date may have. -/
def yearInRange (y : Int) : Bool := -262143 ≤ y && y ≤ 262142

/-- The same time of day one day later. -/
def nextDay (t : Timestamp) : Timestamp :=
  if t.day < daysInMonth t.year t.month then { t with day := t.day + 1 }
  else if t.month < 12 then { t with month := t.month + 1, day := 1 }
  else { t with year := t.year + 1, month := 1, day := 1 }

/-- The same time of day one day earlier. -/
def previousDay (t : Timestamp) : Timestamp :=
  if 1 < t.day then { t with day := t.day - 1 }
  else if 1 < t.month then
    { t with month := t.month - 1, day := daysInMonth t.year (t.month - 1) }
  else { t with year := t.year - 1, month := 12, day := 31 }

/-- Universal time of a local time that is `offset` minutes ahead of it, less than a day. -/
def toUniversal (t : Timestamp) (offset : Int) : Timestamp :=
  let minutes : Int := (t.hour * 60 + t.minute : Nat) - offset
  let placed (t : Timestamp) (m : Int) : Timestamp :=
    { t with hour := m.toNat / 60, minute := m.toNat % 60 }
  if minutes < 0 then placed t.previousDay (minutes + 1440)
  else if minutes ≥ 1440 then placed t.nextDay (minutes - 1440)
  else placed t minutes

/-- The point in time that lies a number of seconds after the beginning of 1970. Years are counted
from the first of March, so that the leap day is the last day of a year. -/
def ofSeconds (seconds nanos : Nat) : Timestamp :=
  let days := seconds / 86400 + 719468
  let era := days / 146097
  let dayOfEra := days % 146097
  let yearOfEra := (dayOfEra - dayOfEra / 1460 + dayOfEra / 36524 - dayOfEra / 146096) / 365
  let dayOfYear := dayOfEra - (365 * yearOfEra + yearOfEra / 4 - yearOfEra / 100)
  let monthFromMarch := (5 * dayOfYear + 2) / 153
  let day := dayOfYear - (153 * monthFromMarch + 2) / 5 + 1
  let month := if monthFromMarch < 10 then monthFromMarch + 3 else monthFromMarch - 9
  let year := yearOfEra + era * 400 + (if month ≤ 2 then 1 else 0)
  ⟨year, month, day, seconds / 3600 % 24, seconds / 60 % 60, seconds % 60, nanos⟩

/-! ## Printing -/

/-- Decimal digits with zeros in front up to a width. -/
def padded (width n : Nat) : List Char :=
  let ds := Nat.toDigits 10 n
  List.replicate (width - ds.length) '0' ++ ds

/-- A year of four digits, or with a sign where it has none. -/
def yearText (y : Int) : List Char :=
  if 0 ≤ y ∧ y ≤ 9999 then padded 4 y.toNat
  else (if y < 0 then '-' else '+') :: padded 4 y.natAbs

/-- The fraction of a second with no, three, six or nine digits. -/
def fractionText (nanos : Nat) : List Char :=
  if nanos = 0 then []
  else if nanos % 1000000 = 0 then '.' :: padded 3 (nanos / 1000000)
  else if nanos % 1000 = 0 then '.' :: padded 6 (nanos / 1000)
  else '.' :: padded 9 nanos

/-- The RFC 3339 form of a point in time. -/
def text (t : Timestamp) : String :=
  String.ofList (yearText t.year ++ '-' :: padded 2 t.month ++ '-' :: padded 2 t.day ++
    'T' :: padded 2 t.hour ++ ':' :: padded 2 t.minute ++ ':' :: padded 2 t.second ++
    fractionText t.nanosecond ++ ['Z'])

/-! ## Reading -/

/-- Reads up to `width` digits, at least one, of a number within 63 bits; like every reading step it
returns the text behind what it read. -/
def readNumber (width : Nat) (cs : List Char) : Except Fault (Nat × List Char) :=
  let ds := (cs.take width).takeWhile Char.isDigit
  match cs, ds with
  | [], _ => .error .tooShort
  | _ :: _, [] => .error .invalid
  | _ :: _, _ :: _ =>
    let n := Json.digitsValue ds
    if n < 2 ^ 63 then .ok (n, cs.drop ds.length) else .error .outOfRange

/-- Reads a number of up to two digits between two bounds, behind blank characters. -/
def readField (low high : Nat) (cs : List Char) : Except Fault (Nat × List Char) := do
  let (n, rest) ← readNumber 2 (Text.trimStart cs)
  if low ≤ n && n ≤ high then return (n, rest) else throw .outOfRange

/-- Reads a mark behind blank characters. -/
def readMark (mark : Char) (cs : List Char) : Except Fault (List Char) :=
  match Text.trimStart cs with
  | [] => .error .tooShort
  | c :: rest => if c = mark then .ok rest else .error .invalid

/-- Reads a year: four digits at most, or any number of digits behind a sign. -/
def readYear (cs : List Char) : Except Fault (Int × List Char) := do
  let (y, rest) ← (match Text.trimStart cs with
    | '-' :: rest => do
      let (n, rest) ← readNumber rest.length rest
      return (-(n : Int), rest)
    | '+' :: rest => do
      let (n, rest) ← readNumber rest.length rest
      return ((n : Int), rest)
    | rest => do
      let (n, rest) ← readNumber 4 rest
      return ((n : Int), rest) : Except Fault (Int × List Char))
  if -(2 ^ 31) ≤ y && y < 2 ^ 31 then return (y, rest) else throw .outOfRange

/-- Reads the fraction of a second as nanoseconds, if there is one; digits beyond are dropped. -/
def readFraction (cs : List Char) : Except Fault (Nat × List Char) :=
  match cs with
  | '.' :: rest => do
    let (n, after) ← readNumber 9 rest
    let used := rest.length - after.length
    return (n * 10 ^ (9 - used), after.dropWhile Char.isDigit)
  | _ => .ok (0, cs)

/-- Reads two digits. -/
def readPair (cs : List Char) : Except Fault (Nat × Nat × List Char) :=
  match cs with
  | a :: b :: rest =>
    if a.isDigit && b.isDigit then .ok (a.toNat - 48, b.toNat - 48, rest) else .error .invalid
  | [c] => if c.utf8Size < 2 then .error .tooShort else .error .invalid
  | [] => .error .tooShort

/-- Reads an offset from universal time in minutes. -/
def readOffset (cs : List Char) : Except Fault (Int × List Char) :=
  let zone := (cs.take 3).map Char.toUpper
  if zone = ['U', 'T', 'C'] then .ok (0, cs.drop 3)
  else match cs with
    | [] => .error .tooShort
    | c :: rest =>
      if c = 'Z' || c = 'z' then .ok (0, rest)
      else if c = '+' || c = '-' || c = '\u2212' then do
        let (h, h', rest) ← readPair rest
        let rest := rest.dropWhile fun c => c = ':' || Text.isBlank c
        let (m, m', rest) ← readPair rest
        if m ≥ 6 then throw .outOfRange
        let minutes : Int := ((h * 10 + h') * 60 + (m * 10 + m') : Nat)
        return (if c = '+' then minutes else -minutes, rest)
      else .error .invalid

/-- Reads the mark between date and time. -/
def readSeparator : List Char → Except Fault (List Char)
  | [] => .error .tooShort
  | c :: rest => if c = 'T' || c = 't' || c = ' ' then .ok rest else .error .invalid

/-- The point in time that a list of characters names. -/
def ofChars (cs : List Char) : Except Fault Timestamp := do
  let (year, cs) ← readYear cs
  let cs ← readMark '-' cs
  let (month, cs) ← readField 1 12 cs
  let cs ← readMark '-' cs
  let (day, cs) ← readField 1 31 cs
  let cs ← readSeparator cs
  let (hour, cs) ← readField 0 23 cs
  let cs ← readMark ':' cs
  let (minute, cs) ← readField 0 59 cs
  let cs ← readMark ':' cs
  let (second, cs) ← readField 0 60 cs
  let (nanosecond, cs) ← readFraction cs
  let (offset, cs) ← readOffset (Text.trimStart cs)
  if !(Text.trimStart cs).isEmpty then throw .trailing
  if !yearInRange year || daysInMonth year month < day then throw .outOfRange
  if offset.natAbs ≥ 1440 then throw .outOfRange
  let t := toUniversal ⟨year, month, day, hour, minute, second, nanosecond⟩ offset
  if !yearInRange t.year then throw .impossible
  return t

/-- The point in time that a text names. -/
def ofText (s : String) : Except Fault Timestamp := ofChars s.toList

/-! ## JSON -/

/-- A point in time is a text. -/
def toJson (t : Timestamp) : Json := .string t.text

/-- Decodes a point in time. -/
def decoder : Json.Decoder Timestamp :=
  Json.Decoder.stringWith "an RFC 3339 formatted date and time string" fun s =>
    match ofText s with
    | .ok t => .ok t
    | .error f => .error f.message

end Timestamp

end GraphIngest
