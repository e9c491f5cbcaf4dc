import Almanac.Calendar.Date
import Almanac.Text.Blank
import Almanac.Text.LowerCase

/-! The days of the week, Monday first. A weekday is spelled by its English name or by the first
three letters of it, in letters of either case (`Weekday.ofName?`). -/
namespace Almanac

inductive Weekday
  | monday | tuesday | wednesday | thursday | friday | saturday | sunday
deriving DecidableEq, Repr

namespace Weekday

/-- The week in order. -/
def all : List Weekday :=
  [monday, tuesday, wednesday, thursday, friday, saturday, sunday]

theorem mem_all (w : Weekday) : w ∈ all := by
  cases w <;> decide

/-- The place of a weekday in the week, from 0. -/
def place (w : Weekday) : Nat :=
  all.idxOf w

/-- Weekdays are ordered as they follow one another in the week. -/
instance : LT Weekday := ⟨fun v w => v.place < w.place⟩

instance : LE Weekday := ⟨fun v w => v.place ≤ w.place⟩

instance (v w : Weekday) : Decidable (v < w) :=
  inferInstanceAs (Decidable (v.place < w.place))

instance : DecidableLE Weekday :=
  fun v w => inferInstanceAs (Decidable (v.place ≤ w.place))

/-- The English name. -/
def name : Weekday → String
  | monday => "Monday"
  | tuesday => "Tuesday"
  | wednesday => "Wednesday"
  | thursday => "Thursday"
  | friday => "Friday"
  | saturday => "Saturday"
  | sunday => "Sunday"

/-- The first three letters of the English name. -/
def abbreviation : Weekday → String
  | monday => "Mon"
  | tuesday => "Tue"
  | wednesday => "Wed"
  | thursday => "Thu"
  | friday => "Fri"
  | saturday => "Sat"
  | sunday => "Sun"

/-- The spellings of a weekday, in small letters. -/
def spellings (w : Weekday) : List (List Char) :=
  [Text.lower w.name.toList, Text.lower w.abbreviation.toList]

/-- The weekday that a text spells, blanks around it and the case of its letters aside. -/
def ofName? (s : String) : Option Weekday :=
  all.find? fun w => w.spellings.contains (Text.lower (Text.trim s.toList))

end Weekday

/-- The weekday of a date: day 1 of the count of days is a Monday. -/
def Date.weekday (d : Date) : Weekday :=
  match (d.dayNumber % 7).toNat with
  | 1 => .monday
  | 2 => .tuesday
  | 3 => .wednesday
  | 4 => .thursday
  | 5 => .friday
  | 6 => .saturday
  | _ => .sunday

end Almanac
