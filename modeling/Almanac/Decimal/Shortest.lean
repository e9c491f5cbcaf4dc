import Almanac.Decimal.Binary
import Almanac.Text.Digits

/-! The shortest decimal text of a floating point number.

The numbers that round to `b` form an interval around it. `shortest` tries grids of 1, 2, … 17
digits and takes, on the first grid that meets the interval, the point nearest to `b`;
`positional` writes it without an exponent, with at least one digit on each side of the point. -/
namespace Almanac.Decimal

/-- The number `digits · 10 ^ exponent`. -/
structure Scaled where
  digits : Nat
  exponent : Int
deriving DecidableEq, Repr

/-- The exact value of a decimal number as a fraction. -/
def Scaled.fraction (s : Scaled) : Nat × Nat :=
  scale 10 s.exponent s.digits 1

/-- Whether a decimal number rounds to `b`. All is compared in quarters of the unit of `b`: the
interval reaches two quarters to each side, but only one below a power of two, and its ends belong
to it when the mantissa is even. -/
def roundsTo (b : Binary) (s : Scaled) : Bool :=
  let below := if b.mantissa = power 2 52 ∧ leastExponent < b.exponent then 1 else 2
  let (n, d) := s.fraction
  let (n, d) := inUnits n d (b.exponent - 2)
  let low := (4 * b.mantissa - below) * d
  let high := (4 * b.mantissa + 2) * d
  if b.mantissa % 2 = 0 then low ≤ n && n ≤ high else low < n && n < high

/-- The exact value of `b` as a fraction. -/
def Binary.fraction (b : Binary) : Nat × Nat :=
  scale 2 b.exponent b.mantissa 1

/-- The place of the first digit of a positive fraction: 0 for units, -1 for tenths. At most `fuel`
places after the point are looked at. -/
def firstPlace (num den : Nat) : Nat → Int
  | 0 => 0
  | fuel + 1 =>
    if den ≤ num then (Nat.toDigits 10 (num / den)).length - 1
    else firstPlace (10 * num) den fuel - 1

/-- The point of the grid of multiples of `10 ^ exponent` that is nearest to a fraction among its
two neighbours that round to `b`. -/
def onGrid? (b : Binary) (exponent : Int) : Option Scaled :=
  let (num, den) := b.fraction
  let (n, d) := scale 10 (-exponent) num den
  let low : Scaled := ⟨n / d, exponent⟩
  let high : Scaled := ⟨n / d + 1, exponent⟩
  match roundsTo b low, roundsTo b high with
  | true, true => some (if roundDiv n d = n / d then low else high)
  | true, false => some low
  | false, true => some high
  | false, false => none

/-- The decimal number with the fewest digits that rounds to `b`. -/
def shortest (b : Binary) : Scaled :=
  let (num, den) := b.fraction
  let place := firstPlace num den 400
  let grids := (List.range 17).map fun (n : Nat) => place - n
  (grids.findSome? (onGrid? b)).getD ⟨0, 0⟩

/-- A number without the zeros at its end, one of which raises the exponent each. -/
def dropZeros : Nat → Scaled → Scaled
  | 0, s => s
  | fuel + 1, s =>
    if s.digits % 10 = 0 ∧ s.digits ≠ 0 then dropZeros fuel ⟨s.digits / 10, s.exponent + 1⟩ else s

/-- A decimal number with a point and without an exponent. -/
def positional (s : Scaled) : List Char :=
  let s := dropZeros 20 s
  if 0 ≤ s.exponent then
    Nat.toDigits 10 s.digits ++ List.replicate s.exponent.toNat '0' ++ ['.', '0']
  else
    let places := (-s.exponent).toNat
    let digits := Text.padded (places + 1) s.digits
    digits.take (digits.length - places) ++ '.' :: digits.drop (digits.length - places)

/-- The shortest text of the floating point number nearest to `digits · 10 ^ exponent`, unless
there is none because the number is too large. Numbers below every floating point number are zero,
and both limits are seen from the place of the first digit, without forming the power. -/
def text? (s : Scaled) : Option (List Char) :=
  let place := (Nat.toDigits 10 s.digits).length + s.exponent
  if s.digits = 0 ∨ place < -400 then some ['0', '.', '0']
  else if 400 < place then none
  else
    let (num, den) := s.fraction
    (nearest? num den).map fun b =>
      if b.mantissa = 0 then ['0', '.', '0'] else positional (shortest b)

end Almanac.Decimal
