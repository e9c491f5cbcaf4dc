import Almanac.Calendar.Date
import Almanac.Text.Digits

/-! Dates and times of a TOML document.

A date is `YYYY-MM-DD`; a time is `HH:MM`, with seconds and their decimals if wanted. A date may
be followed by `T`, `t` or a space and a time, and that by `Z`, `z` or an offset from universal
time. The numbers have to be in range; a minute may have a sixty-first second. -/
namespace Almanac.Toml

/-- Whether two digits denote a number between two bounds. -/
def isPair (low high : Nat) (a b : Char) : Bool :=
  match Text.number? [a, b] with
  | some n => low ≤ n && n ≤ high
  | none => false

/-- Whether a text is a date. -/
def isDay : List Char → Bool
  | [y₁, y₂, y₃, y₄, '-', m₁, m₂, '-', d₁, d₂] =>
    match Text.number? [y₁, y₂, y₃, y₄], Text.number? [m₁, m₂], Text.number? [d₁, d₂] with
    | some year, some month, some day => decide (IsDate year month day)
    | _, _, _ => false
  | _ => false

/-- What follows the decimals of a second, if any are there. -/
def skipDecimals? : List Char → Option (List Char)
  | '.' :: c :: cs => if c.isDigit then some (cs.dropWhile Char.isDigit) else none
  | '.' :: [] => none
  | cs => some cs

/-- What follows a time at the front of a text. -/
def skipTime? : List Char → Option (List Char)
  | h₁ :: h₂ :: ':' :: m₁ :: m₂ :: ':' :: s₁ :: s₂ :: cs =>
    if isPair 0 23 h₁ h₂ && isPair 0 59 m₁ m₂ && isPair 0 60 s₁ s₂ then skipDecimals? cs else none
  | h₁ :: h₂ :: ':' :: m₁ :: m₂ :: cs =>
    if isPair 0 23 h₁ h₂ && isPair 0 59 m₁ m₂ then some cs else none
  | _ => none

/-- Whether a text is nothing or an offset from universal time. -/
def isOffset : List Char → Bool
  | [] => true
  | ['Z'] => true
  | ['z'] => true
  | [sign, h₁, h₂, ':', m₁, m₂] =>
    (sign == '+' || sign == '-') && isPair 0 23 h₁ h₂ && isPair 0 59 m₁ m₂
  | _ => false

/-- Whether a text is a date, a time or both. -/
def isMoment (cs : List Char) : Bool :=
  if isDay (cs.take 10) then
    match cs.drop 10 with
    | [] => true
    | c :: time =>
      (c == 'T' || c == 't' || c == ' ') && (skipTime? time).any isOffset
  else skipTime? cs == some []

end Almanac.Toml
