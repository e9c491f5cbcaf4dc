import Almanac.Ascending
import Almanac.Text.Blank
import Almanac.Text.Digits

/-! Working hours.

An interval of hours holds its start and not its end. It is written `HH-HH`, and read from two
numbers of one or two digits with any blanks around them, cut at the first `-`; the start has to
come before the end and the end may be 24 at most. -/
namespace Almanac

/-- The hours from `start` up to `stop`, which is not one of them. -/
structure HourInterval where
  start : Nat
  stop : Nat
deriving DecidableEq, Repr

namespace HourInterval

/-- Intervals are ordered by their start, then by their end. -/
instance : LT HourInterval :=
  ⟨fun a b => a.start < b.start ∨ a.start = b.start ∧ a.stop < b.stop⟩

instance : LE HourInterval := ⟨fun a b => ¬ b < a⟩

instance (a b : HourInterval) : Decidable (a < b) :=
  inferInstanceAs (Decidable (a.start < b.start ∨ a.start = b.start ∧ a.stop < b.stop))

instance : DecidableLE HourInterval :=
  fun a b => inferInstanceAs (Decidable (¬ b < a))

/-- Whether an hour lies in the interval. -/
def contains (i : HourInterval) (hour : Nat) : Bool :=
  i.start ≤ hour && hour < i.stop

/-- The interval as `HH-HH`. -/
def text (i : HourInterval) : String :=
  String.ofList (Text.padded 2 i.start ++ '-' :: Text.padded 2 i.stop)

/-- An hour of one or two digits. -/
def hour? (cs : List Char) : Option Nat :=
  let digits := Text.trim cs
  if digits.length ≤ 2 then Text.number? digits else none

/-- The interval that a text denotes. -/
def ofText? (s : String) : Option HourInterval :=
  match s.toList.dropWhile (· != '-') with
  | [] => none
  | _ :: after => do
    let start ← hour? (s.toList.takeWhile (· != '-'))
    let stop ← hour? after
    if start < stop ∧ stop ≤ 24 then some ⟨start, stop⟩ else none

end HourInterval

end Almanac
