import GraphIngest.Decimal.Shortest

/-!
# JSON values

A value keeps the members of an object in the order in which they were written, repeated keys
included. A number is an integer of 64 bits, signed or unsigned, or a finite binary floating point
number, and the two are told apart: `250` and `250.0` are different values.
-/

namespace GraphIngest

/-- A number of a JSON text. -/
inductive JsonNumber where
  | integer (value : Int)
  | float (value : Binary64)
  deriving DecidableEq, Repr, Inhabited

/-- A JSON value. -/
inductive Json where
  | null
  | bool (value : Bool)
  | number (value : JsonNumber)
  | string (value : String)
  | array (items : List Json)
  | object (members : List (String × Json))
  deriving Repr, Inhabited

namespace JsonNumber

/-- The digits of an exponent, with a sign in front. -/
def exponentText (e : Int) : List Char :=
  (if e < 0 then '-' else '+') :: Nat.toDigits 10 e.natAbs

/-- A floating point number is written positionally from `1e-5` to below `1e16`, always with a
point; outside of that range it has one digit before the point and a signed exponent. -/
def floatText (x : Binary64) : List Char :=
  let d := x.shortest
  let body :=
    if -5 ≤ d.exponent ∧ d.exponent < 16 then
      let (whole, part) := d.positional
      whole ++ '.' :: (if part.isEmpty then ['0'] else part)
    else
      match d.digits with
      | [] => []
      | [c] => c :: 'e' :: exponentText d.exponent
      | c :: rest => c :: '.' :: rest ++ 'e' :: exponentText d.exponent
  if x.negative then '-' :: body else body

/-- The text of an integer: decimal digits, with a sign when it is negative. -/
def integerText (i : Int) : List Char :=
  if i < 0 then '-' :: Nat.toDigits 10 i.natAbs else Nat.toDigits 10 i.natAbs

/-- The text of a number. -/
def text : JsonNumber → List Char
  | integer i => integerText i
  | float x => floatText x

end JsonNumber

namespace Json

/-- A natural number. -/
def nat (n : Nat) : Json := .number (.integer n)

/-- A list of texts. -/
def strings (ss : List String) : Json := .array (ss.map .string)

/-- A value that may be absent, written as `null` then. -/
def option {α : Type} (encode : α → Json) : Option α → Json
  | some a => encode a
  | none => .null

end Json

end GraphIngest
