/-! Floating point numbers of 53 binary digits, by exact arithmetic.

A positive magnitude is `mantissa · 2 ^ exponent`. `nearest?` rounds a positive fraction to such a
number, a tie going to the even mantissa, and has no result for a fraction that rounds past the
largest one. -/
namespace Almanac.Decimal

/-- The number `mantissa · 2 ^ exponent`. -/
structure Binary where
  mantissa : Nat
  exponent : Int
deriving DecidableEq, Repr

/-- The least exponent: smaller numbers lose digits instead. -/
def leastExponent : Int := -1074

/-- The largest exponent. -/
def largestExponent : Int := 971

/-- The quotient nearest to a fraction, a tie going to the even one. -/
def roundDiv (num den : Nat) : Nat :=
  let quotient := num / den
  let twice := 2 * (num % den)
  if twice < den then quotient
  else if den < twice then quotient + 1
  else quotient + quotient % 2

/-- A power of a natural number. -/
def power (base exponent : Nat) : Nat :=
  Nat.pow base exponent

/-- The fraction `num / den` times a power of a base, which is kept in the denominator when the
exponent is negative. -/
def scale (base : Nat) (exponent : Int) (num den : Nat) : Nat × Nat :=
  if 0 ≤ exponent then (num * power base exponent.toNat, den)
  else (num, den * power base (-exponent).toNat)

/-- The fraction `num / den` in units of `2 ^ exponent`. -/
def inUnits (num den : Nat) (exponent : Int) : Nat × Nat :=
  scale 2 (-exponent) num den

/-- The exponent at which a fraction has 53 binary digits before the point, or the least exponent if
that is larger. -/
def exponentFor (num den : Nat) : Int :=
  let guess : Int := (num.log2 : Int) - den.log2 - 52
  let (n, d) := inUnits num den guess
  max leastExponent (if n < d * power 2 52 then guess - 1 else guess)

/-- The floating point number nearest to a positive fraction. -/
def nearest? (num den : Nat) : Option Binary :=
  let exponent := exponentFor num den
  let (n, d) := inUnits num den exponent
  let mantissa := roundDiv n d
  let result := if mantissa = power 2 53 then ⟨power 2 52, exponent + 1⟩ else ⟨mantissa, exponent⟩
  if result.exponent ≤ largestExponent then some result else none

end Almanac.Decimal
