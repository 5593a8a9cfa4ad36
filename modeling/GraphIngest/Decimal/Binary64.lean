/-!
# Finite 64-bit binary floating point numbers

A number is a sign, a mantissa below `2 ^ 53` and a power of two. Every result is the exact quotient
rounded to the nearest such number, a tie going to the even mantissa (`roundRatio?`). Infinities are
no values of this type: an operation that would reach one returns `none`.
-/

namespace GraphIngest

-- Powers of integers are the built-in ones, also where a library brings its own.
attribute [default_instance 20000, instance (20000)] instPowNat

/-- The number `mantissa * 2 ^ exponent`, negative or not. -/
structure Binary64 where
  negative : Bool
  mantissa : Nat
  exponent : Int
  deriving DecidableEq, Repr, Inhabited

namespace Binary64

/-- The exponent of the numbers next to zero. -/
def leastExponent : Int := -1074

/-- The greatest exponent of a finite number. -/
def greatestExponent : Int := 971

/-- Positive zero. -/
def zero : Binary64 := ⟨false, 0, leastExponent⟩

/-- The number is zero, of either sign. -/
def isZero (x : Binary64) : Bool := x.mantissa == 0

/-- The number with the opposite sign. -/
def neg (x : Binary64) : Binary64 := { x with negative := !x.negative }

/-- The quotient of two naturals, rounded to nearest, a tie going to the even neighbour. -/
def divideToEven (num den : Nat) : Nat :=
  let q := num / den
  let r := num % den
  if 2 * r > den || (2 * r == den && q % 2 == 1) then q + 1 else q

/-- Numerator and denominator of `num / den / 2 ^ e`. -/
def scaleRatio (num den : Nat) (e : Int) : Nat × Nat :=
  if e ≥ 0 then (num, den * 2 ^ e.toNat) else (num * 2 ^ (-e).toNat, den)

/-- The exponent that gives the quotient `num / den` a mantissa of 53 bits, or the least one. -/
def ratioExponent (num den : Nat) : Int :=
  let guess : Int := (Nat.log2 num : Int) - (Nat.log2 den : Int) - 52
  let (n, d) := scaleRatio num den guess
  max leastExponent (if n / d < 2 ^ 52 then guess - 1 else guess)

/-- Mantissa and exponent of the number nearest to `num / den`, unless that is too large. -/
def roundRatio? (num den : Nat) : Option (Nat × Int) :=
  if num = 0 then some (0, leastExponent)
  else
    let e := ratioExponent num den
    let (n, d) := scaleRatio num den e
    let m := divideToEven n d
    let (m, e) := if m = 2 ^ 53 then (2 ^ 52, e + 1) else (m, e)
    if e > greatestExponent then none else some (m, e)

/-- The absolute value as a fraction. -/
def toRatio (x : Binary64) : Nat × Nat :=
  if x.exponent ≥ 0 then (x.mantissa * 2 ^ x.exponent.toNat, 1)
  else (x.mantissa, 2 ^ (-x.exponent).toNat)

/-- The positive number nearest to a fraction, unless that is too large. -/
def ofRatio? (num den : Nat) : Option Binary64 :=
  (roundRatio? num den).map fun (m, e) => ⟨false, m, e⟩

/-- The number nearest to a natural below `2 ^ 64`; a larger one may be out of range and gives
zero. -/
def ofNat (n : Nat) : Binary64 := (ofRatio? n 1).getD zero

/-- The number nearest to a 64-bit integer. -/
def ofInt (i : Int) : Binary64 := { ofNat i.natAbs with negative := i < 0 }

/-- The product, rounded, of a number and a positive one. -/
def mul? (x y : Binary64) : Option Binary64 :=
  let (a, b) := x.toRatio
  let (c, d) := y.toRatio
  (roundRatio? (a * c) (b * d)).map fun (m, e) => ⟨x.negative, m, e⟩

/-- The quotient, rounded, of a number and a positive one that is at least one. -/
def div (x y : Binary64) : Binary64 :=
  let (a, b) := x.toRatio
  let (c, d) := y.toRatio
  match roundRatio? (a * d) (b * c) with
  | some (m, e) => ⟨x.negative, m, e⟩
  | none => x

/-- The number nearest to a power of ten; powers above `10 ^ 308` are out of range. -/
def powerOfTen (k : Nat) : Binary64 := ofNat (10 ^ k)

/-- The nearest natural to the absolute value, a half going up. -/
def roundToNat (x : Binary64) : Nat :=
  let (a, b) := x.toRatio
  (2 * a + b) / (2 * b)

end Binary64

end GraphIngest
