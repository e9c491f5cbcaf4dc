import Almanac.Calendar.Date

/-! Steps from one date to another.

A step by months keeps the day where the month reached has it and goes to the month's last day where
it has not; a step by days moves along the count of days. Neither leaves the supported years: a step
that would has no result. -/
namespace Almanac.Date

/-- The months from January of year 0 to the month of a date. -/
def monthNumber (d : Date) : Int :=
  12 * d.year + (d.month - 1)

/-- The date a number of months later, or earlier when the number is negative, with the day clipped
to the length of the month reached. -/
def addMonths? (d : Date) (months : Int) : Option Date :=
  let year := (d.monthNumber + months) / 12
  let month := (d.monthNumber + months) % 12 + 1
  ofNumbers? year month (min d.day (monthLength year month))

/-- The date a number of days later, or earlier when the number is negative. -/
def addDays? (d : Date) (days : Int) : Option Date :=
  ofDayNumber? (d.dayNumber + days)

/-- A step by months fails only when it leaves the supported years. -/
theorem addMonths?_eq_none_iff {d : Date} {months : Int} : d.addMonths? months = none ↔
    (d.monthNumber + months) / 12 < firstYear ∨ lastYear < (d.monthNumber + months) / 12 := by
  have := monthLength_ge ((d.monthNumber + months) / 12) ((d.monthNumber + months) % 12 + 1)
  have : 1 ≤ d.day := d.isDate.2.2.2.2.1
  simp only [addMonths?, ofNumbers?_eq_none_iff, IsDate]
  omega

end Almanac.Date
