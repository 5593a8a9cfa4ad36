import GraphIngest.Decimal.Literal

/-!
# Plain scalars that are not texts

A scalar without quotes may stand for nothing, a truth value or a number. The rules are those of the
YAML 1.2 core schema with binary and octal integers; integers have up to 128 bits, and a float that
would be infinite is a text.
-/

namespace GraphIngest.Yaml

/-- The scalar stands for nothing. -/
def isNull (cs : List Char) : Bool :=
  cs.isEmpty || ["~", "null", "Null", "NULL"].contains (String.ofList cs)

/-- The truth value that a scalar stands for. -/
def bool? (cs : List Char) : Option Bool :=
  if ["true", "True", "TRUE"].contains (String.ofList cs) then some true
  else if ["false", "False", "FALSE"].contains (String.ofList cs) then some false
  else none

/-- More than one digit, the first of them zero, with or without a sign. -/
def isZeroPadded (cs : List Char) : Bool :=
  let body := match cs with
    | '-' :: r | '+' :: r => r
    | r => r
  match body with
  | '0' :: d :: r => (d :: r).all Char.isDigit
  | _ => false

/-- The value of an integer without its sign: hexadecimal, octal, binary or decimal. -/
def magnitude? (cs : List Char) : Option Nat :=
  match cs with
  | '0' :: 'x' :: r => digitsValue? 16 r
  | '0' :: 'o' :: r => digitsValue? 8 r
  | '0' :: 'b' :: r => digitsValue? 2 r
  | r => if isZeroPadded r then none else digitsValue? 10 r

/-- The integer that a scalar stands for. -/
def integer? (cs : List Char) : Option Int :=
  match cs with
  | '-' :: r => do
    let n ← magnitude? r
    if n ≤ 2 ^ 127 then some (-(n : Int)) else none
  | '+' :: r => unsigned r
  | r => unsigned r
where
  /-- An integer without a minus sign. -/
  unsigned (r : List Char) : Option Int := do
    let n ← magnitude? r
    if n < 2 ^ 128 then some (n : Int) else none

/-- The finite floating point number that a scalar stands for, if it is written with digits. -/
def float? (cs : List Char) : Option Binary64 :=
  let body := match cs with
    | '+' :: '-' :: _ => []
    | '+' :: r => r
    | r => r
  (DecimalLiteral.ofChars? body).bind DecimalLiteral.toBinary64?

/-- The scalar stands for infinity or for no number. -/
def isNonFinite (cs : List Char) : Bool :=
  [".inf", ".Inf", ".INF", "+.inf", "+.Inf", "+.INF", "-.inf", "-.Inf", "-.INF", ".nan", ".NaN",
    ".NAN"].contains (String.ofList cs)

/-- Without quotes the scalar would not be read as a text. -/
def needsQuotes (cs : List Char) : Bool :=
  isNull cs || (bool? cs).isSome || (integer? cs).isSome || isZeroPadded cs ||
    (float? cs).isSome || isNonFinite cs

end GraphIngest.Yaml
