import GraphIngest.Decimal.Binary64

/-!
# Numbers as they are written

Digits to a base, and decimal fractions with a point and an exponent. A fraction is read exactly and
rounded once, to the nearest floating point number.
-/

namespace GraphIngest

/-- The value of a hexadecimal digit. -/
def hexValue? (c : Char) : Option Nat :=
  if '0' ≤ c && c ≤ '9' then some (c.toNat - 48)
  else if 'a' ≤ c && c ≤ 'f' then some (c.toNat - 87)
  else if 'A' ≤ c && c ≤ 'F' then some (c.toNat - 55)
  else none

/-- The value of digits to a base, at least one of them. -/
def digitsValue? (base : Nat) (cs : List Char) : Option Nat :=
  if cs.isEmpty then none
  else cs.foldlM (fun n c => do
    let d ← hexValue? c
    if d < base then some (n * base + d) else none) 0

/-- The natural number of 64 bits that digits stand for; a plus sign may lead. -/
def nat64? (cs : List Char) : Option Nat := do
  let ds := match cs with
    | '+' :: r => r
    | r => r
  let n ← digitsValue? 10 ds
  if n < 2 ^ 64 then some n else none

/-- The integer of 64 bits that digits stand for; a sign may lead. -/
def int64? (cs : List Char) : Option Int :=
  match cs with
  | '-' :: r => do
    let n ← digitsValue? 10 r
    if n ≤ 2 ^ 63 then some (-(n : Int)) else none
  | '+' :: r => unsigned r
  | r => unsigned r
where
  /-- An integer without a minus sign. -/
  unsigned (r : List Char) : Option Int := do
    let n ← digitsValue? 10 r
    if n < 2 ^ 63 then some (n : Int) else none

/-- The parts of a decimal fraction: the digits before and after the point, and the exponent. -/
structure DecimalLiteral where
  negative : Bool
  whole : List Char
  part : List Char
  exponent : Int
  deriving DecidableEq, Repr

namespace DecimalLiteral

/-- Reads the exponent of a decimal up to the end of the text. -/
def readExponent (cs : List Char) : Option Int :=
  match cs with
  | [] => some 0
  | e :: r =>
    if e = 'e' || e = 'E' then
      let (negative, ds) := match r with
        | '-' :: ds => (true, ds)
        | '+' :: ds => (false, ds)
        | ds => (false, ds)
      (digitsValue? 10 ds).map fun n => if negative then -(n : Int) else n
    else none

/-- Reads a decimal: at least one digit before or behind a point, and perhaps an exponent. -/
def ofChars? (cs : List Char) : Option DecimalLiteral :=
  let (negative, body) := match cs with
    | '-' :: r => (true, r)
    | r => (false, r)
  let whole := body.takeWhile Char.isDigit
  let rest := body.dropWhile Char.isDigit
  let (part, rest) := match rest with
    | '.' :: r => (r.takeWhile Char.isDigit, r.dropWhile Char.isDigit)
    | r => ([], r)
  if whole.isEmpty && part.isEmpty then none
  else (readExponent rest).map fun e => ⟨negative, whole, part, e⟩

/-- The digits before and after the point as one natural number. -/
def significand (d : DecimalLiteral) : Nat := (digitsValue? 10 (d.whole ++ d.part)).getD 0

/-- The nearest floating point number, unless that would be infinite. Far beyond the range of
exponents the number is zero or infinite whatever its digits are. -/
def toBinary64? (d : DecimalLiteral) : Option Binary64 :=
  let scale : Int := d.exponent - (d.part.length : Int)
  let signed (x : Binary64) : Binary64 := { x with negative := d.negative }
  if d.significand = 0 then some (signed .zero)
  else if scale + (d.whole.length + d.part.length : Nat) < -400 then some (signed .zero)
  else if scale > 400 then none
  else if scale ≥ 0 then (Binary64.ofRatio? (d.significand * 10 ^ scale.toNat) 1).map signed
  else (Binary64.ofRatio? d.significand (10 ^ (-scale).toNat)).map signed

end DecimalLiteral

end GraphIngest
