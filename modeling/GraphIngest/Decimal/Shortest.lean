import GraphIngest.Decimal.Binary64

/-!
# The shortest decimal that reads back

A binary number is written with the fewest digits that still lie nearer to it than to its
neighbours, and of two such decimals with the nearer one. For each count of digits the two decimals
next to the number are tried; the first count with a hit wins.
-/

namespace GraphIngest

/-- Decimal digits `d₀ d₁ …` with the value `d₀.d₁… * 10 ^ exponent`. -/
structure ScientificDigits where
  digits : List Char
  exponent : Int
  deriving DecidableEq, Repr

namespace Binary64

/-- The greatest power of ten not above the number, as an exponent; the number is not zero. -/
def decimalExponent (x : Binary64) : Int :=
  let (a, b) := x.toRatio
  let guess : Int := (((Nat.log2 x.mantissa : Int) + x.exponent) * 30103).fdiv 100000
  let reaches (k : Int) : Bool := if k ≥ 0 then 10 ^ k.toNat * b ≤ a else b ≤ a * 10 ^ (-k).toNat
  if reaches (guess + 1) then guess + 1 else if reaches guess then guess else guess - 1

/-- The decimal with `count` digits that lies within the rounding interval of the number. -/
def decimalWithin? (x : Binary64) (first : Int) (count : Nat) : Option (Nat × Int) :=
  let k : Int := first - (count : Int) + 1
  let unit : Int := x.exponent - 2
  let scaleValue : Nat := 2 ^ unit.toNat * 10 ^ (-k).toNat
  let grid : Nat := 10 ^ k.toNat * 2 ^ (-unit).toNat
  let value := 4 * x.mantissa * scaleValue
  let upper := (4 * x.mantissa + 2) * scaleValue
  let atPower := x.mantissa == 2 ^ 52 && x.exponent > leastExponent
  let lower := (4 * x.mantissa - (if atPower then 1 else 2)) * scaleValue
  let closed := x.mantissa % 2 == 0
  let inside (c : Nat) : Bool :=
    if closed then lower ≤ c * grid && c * grid ≤ upper else lower < c * grid && c * grid < upper
  let c := value / grid
  let below := inside c
  let above := inside (c + 1)
  if below && above then
    let low := value - c * grid
    let high := (c + 1) * grid - value
    some (if low < high || (low == high && c % 2 == 0) then c else c + 1, k)
  else if below then some (c, k)
  else if above then some (c + 1, k)
  else none

/-- The shortest digits of a number; zero has the one digit `0`. -/
def shortest (x : Binary64) : ScientificDigits :=
  if x.isZero then ⟨['0'], 0⟩
  else
    let first := x.decimalExponent
    let found := (List.range 17).findSome? fun i => x.decimalWithin? first (i + 1)
    let (c, k) := found.getD (0, 0)
    let all := Nat.toDigits 10 c
    let kept := (all.reverse.dropWhile (· == '0')).reverse
    ⟨kept, k + all.length - 1⟩

end Binary64

namespace ScientificDigits

/-- The digits before and after the decimal point in positional notation. -/
def positional (d : ScientificDigits) : List Char × List Char :=
  if d.exponent ≥ 0 then
    let n := d.exponent.toNat + 1
    (d.digits.take n ++ List.replicate (n - d.digits.length) '0', d.digits.drop n)
  else (['0'], List.replicate ((-d.exponent).toNat - 1) '0' ++ d.digits)

end ScientificDigits

end GraphIngest
