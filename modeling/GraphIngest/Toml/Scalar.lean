import GraphIngest.Settings.Value
import GraphIngest.Timestamp

/-!
# Numbers, truth values and times of TOML

Digits may be grouped with underscores between them. Integers have 64 bits and no leading zero, and
may be hexadecimal, octal or binary. A time is a date, a time of day, or both with an offset; it
counts as its text in normal form.
-/

namespace GraphIngest.Toml

open Setting (integer float)

/-- The digits of a group, without the underscores that stand between them. -/
def digitGroup? (isDigit : Char → Bool) : List Char → Option (List Char)
  | [] => none
  | [c] => if isDigit c then some [c] else none
  | c :: '_' :: cs => if isDigit c then (digitGroup? isDigit cs).map (c :: ·) else none
  | c :: cs => if isDigit c then (digitGroup? isDigit cs).map (c :: ·) else none

/-- Decimal digits of a group without a leading zero. -/
def wholeDigits? (cs : List Char) : Option (List Char) := do
  let ds ← digitGroup? Char.isDigit cs
  if 1 < ds.length && ds.head? = some '0' then none else some ds

/-- The integer of digits to a base of a power of two. -/
def basedInteger? (base : Nat) (cs : List Char) : Option Setting := do
  let ds ← digitGroup? (fun c => (hexValue? c).isSome) cs
  let n ← digitsValue? base ds
  if n < 2 ^ 63 then some (integer n) else none

/-- Splits a sign off a number. -/
def splitSign : List Char → List Char × List Char
  | '-' :: r => (['-'], r)
  | '+' :: r => ([], r)
  | r => ([], r)

/-- The integer that a word is. -/
def integer? : List Char → Option Setting
  | '0' :: 'x' :: ds => basedInteger? 16 ds
  | '0' :: 'o' :: ds => basedInteger? 8 ds
  | '0' :: 'b' :: ds => basedInteger? 2 ds
  | cs =>
    let (sign, body) := splitSign cs
    (wholeDigits? body).bind fun ds => Setting.ofIntegerText? (sign ++ ds)

/-- The digits of an exponent and its sign, where there is one. -/
def exponent? : List Char → Option Int
  | [] => some 0
  | e :: cs =>
    if e = 'e' || e = 'E' then do
      let (sign, body) := splitSign cs
      let n ← digitsValue? 10 (← digitGroup? Char.isDigit body)
      return if sign.isEmpty then (n : Int) else -(n : Int)
    else none

/-- A decimal point or an exponent is still to come. -/
def isFractionMark (c : Char) : Bool := c = '.' || c = 'e' || c = 'E'

/-- The decimal fraction that a word is; it has a point or an exponent. -/
def fraction? (cs : List Char) : Option DecimalLiteral := do
  let (sign, body) := splitSign cs
  let whole ← wholeDigits? (body.takeWhile (!isFractionMark ·))
  let negative := !sign.isEmpty
  match body.dropWhile (!isFractionMark ·) with
  | [] => none
  | '.' :: r =>
    let part ← digitGroup? Char.isDigit (r.takeWhile (!isFractionMark ·))
    let e ← exponent? (r.dropWhile (!isFractionMark ·))
    return ⟨negative, whole, part, e⟩
  | r => return ⟨negative, whole, [], ← exponent? r⟩

/-- The floating point number that a word is. A number too large is refused, unless it is
negative. -/
def float? (cs : List Char) : Option Setting :=
  let (sign, body) := splitSign cs
  if body = ['i', 'n', 'f'] then some (.infinity (!sign.isEmpty))
  else if body = ['n', 'a', 'n'] then some .notANumber
  else do
    let x := Setting.ofLiteral (← fraction? cs)
    match x with
    | .infinity false => none
    | x => some x

/-! ## Dates and times -/

/-- Reads a number of a fixed count of digits between two bounds. -/
def readDigits (count low high : Nat) (cs : List Char) : Option (Nat × List Char) := do
  let ds := cs.take count
  if ds.length < count || !ds.all Char.isDigit then none
  let n ← digitsValue? 10 ds
  if low ≤ n && n ≤ high then some (n, cs.drop count) else none

/-- Reads a mark. -/
def readMark (mark : Char) : List Char → Option (List Char)
  | c :: cs => if c = mark then some cs else none
  | [] => none

/-- Reads a date and returns its normal form. -/
def readDate (cs : List Char) : Option (List Char × List Char) := do
  let (year, rest) ← readDigits 4 0 9999 cs
  let (month, rest) ← readDigits 2 1 12 (← readMark '-' rest)
  let (day, rest) ← readDigits 2 1 (Timestamp.daysInMonth year month) (← readMark '-' rest)
  return (Timestamp.padded 4 year ++ '-' :: Timestamp.padded 2 month ++
    '-' :: Timestamp.padded 2 day, rest)

/-- The digits of the fraction of a second that count: nine at most, and no zeros at the end. -/
def fractionDigits (ds : List Char) : List Char :=
  let kept := ((ds.take 9).reverse.dropWhile (· = '0')).reverse
  if kept.isEmpty then [] else '.' :: kept

/-- Reads a time of day and returns its normal form. -/
def readTime (cs : List Char) : Option (List Char × List Char) := do
  let (hour, rest) ← readDigits 2 0 23 cs
  let (minute, rest) ← readDigits 2 0 59 (← readMark ':' rest)
  let (second, rest) ← readDigits 2 0 60 (← readMark ':' rest)
  let clock := Timestamp.padded 2 hour ++ ':' :: Timestamp.padded 2 minute ++
    ':' :: Timestamp.padded 2 second
  match rest with
  | '.' :: r =>
    let ds := r.takeWhile Char.isDigit
    if ds.isEmpty then none
    else return (clock ++ fractionDigits ds, r.dropWhile Char.isDigit)
  | rest => return (clock, rest)

/-- Reads an offset and returns its normal form. -/
def readOffset : List Char → Option (List Char × List Char)
  | [] => some ([], [])
  | c :: cs =>
    if c = 'Z' || c = 'z' then some (['Z'], cs)
    else if c = '+' || c = '-' then do
      let (hour, rest) ← readDigits 2 0 23 cs
      let (minute, rest) ← readDigits 2 0 59 (← readMark ':' rest)
      let sign := if hour = 0 && minute = 0 then '+' else c
      return (sign :: Timestamp.padded 2 hour ++ ':' :: Timestamp.padded 2 minute, rest)
    else none

/-- The normal form of a time of day that belongs to a date, with its offset. -/
def dayTime? (cs : List Char) : Option (List Char) := do
  let (clock, rest) ← readTime cs
  match ← readOffset rest with
  | (offset, []) => return 'T' :: clock ++ offset
  | _ => none

/-- The normal form of a date, of a time of day, or of both. -/
def time? (cs : List Char) : Option (List Char) :=
  match readDate cs with
  | some (date, []) => some date
  | some (date, c :: rest) =>
    if c = 'T' || c = 't' then (dayTime? rest).map (date ++ ·) else none
  | none =>
    match readTime cs with
    | some (clock, []) => some clock
    | _ => none

/-- The characters of a word. -/
def isWordChar (c : Char) : Bool :=
  c.isAlphanum || c = '_' || c = '+' || c = '-' || c = '.' || c = ':'

/-- The value of a word. -/
def word? (cs : List Char) : Option Setting :=
  if cs = "true".toList then some (.bool true)
  else if cs = "false".toList then some (.bool false)
  else match integer? cs, float? cs, time? cs with
    | some v, _, _ => some v
    | none, some v, _ => some v
    | none, none, some t => some (.text (String.ofList t))
    | none, none, none => none

/-- A date and a time of day may stand with a blank between them. -/
def readDateTime (cs : List Char) : Option (Setting × List Char) := do
  let (date, rest) ← readDate cs
  match rest with
  | ' ' :: rest =>
    let time ← dayTime? (rest.takeWhile isWordChar)
    return (.text (String.ofList (date ++ time)), rest.dropWhile isWordChar)
  | _ => none

/-- Reads a word and returns its value. -/
def readWord (cs : List Char) : Option (Setting × List Char) :=
  match readDateTime cs with
  | some found => some found
  | none => (word? (cs.takeWhile isWordChar)).map fun v => (v, cs.dropWhile isWordChar)

end GraphIngest.Toml
