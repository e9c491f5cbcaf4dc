/-! Dates of the proleptic Gregorian calendar.

The calendar runs without a gap through year 0 and the years before it, from 1 January of
`firstYear` to 31 December of `lastYear`; a `Date` carries the proof that it is one of these days.
`dayNumber` counts days (day 1 is 1 January of year 1), and `ofDayNumber?` finds the date with a
given number. -/
namespace Almanac

/-! ### Years and months -/

/-- A year is leap when four divides it, except a century that four hundred does not divide. -/
def isLeap (year : Int) : Bool :=
  year % 4 == 0 && (year % 100 != 0 || year % 400 == 0)

/-- The number of days of a month, counted from 1 (January) to 12. -/
def monthLength (year month : Int) : Int :=
  if month = 2 then if isLeap year then 29 else 28
  else if month = 4 ∨ month = 6 ∨ month = 9 ∨ month = 11 then 30
  else 31

theorem monthLength_ge (year month : Int) : 28 ≤ monthLength year month := by
  unfold monthLength; split <;> (try split) <;> omega

theorem monthLength_le (year month : Int) : monthLength year month ≤ 31 := by
  unfold monthLength; split <;> (try split) <;> omega

/-- The first supported year. -/
def firstYear : Int := -262143

/-- The last supported year. -/
def lastYear : Int := 262142

/-! ### Dates -/

/-- Whether three numbers are a supported day of the calendar. -/
def IsDate (year month day : Int) : Prop :=
  firstYear ≤ year ∧ year ≤ lastYear ∧ 1 ≤ month ∧ month ≤ 12 ∧
    1 ≤ day ∧ day ≤ monthLength year month

instance (year month day : Int) : Decidable (IsDate year month day) :=
  inferInstanceAs (Decidable (_ ∧ _))

/-- A supported day of the calendar. -/
@[ext] structure Date where
  year : Int
  month : Int
  day : Int
  isDate : IsDate year month day
deriving DecidableEq

namespace Date

/-- The date that three numbers name, when they name one. -/
def ofNumbers? (year month day : Int) : Option Date :=
  if h : IsDate year month day then some ⟨year, month, day, h⟩ else none

theorem ofNumbers?_eq_some_iff {year month day : Int} {d : Date} :
    ofNumbers? year month day = some d ↔ d.year = year ∧ d.month = month ∧ d.day = day := by
  unfold ofNumbers?
  split
  · simp only [Option.some.injEq]
    exact ⟨by rintro rfl; simp, fun ⟨h₁, h₂, h₃⟩ => Date.ext h₁.symm h₂.symm h₃.symm⟩
  · next h => simp only [reduceCtorEq, false_iff]; rintro ⟨rfl, rfl, rfl⟩; exact h d.isDate

theorem ofNumbers?_eq_none_iff {year month day : Int} :
    ofNumbers? year month day = none ↔ ¬ IsDate year month day := by
  unfold ofNumbers?; split <;> simp_all

@[simp] theorem ofNumbers?_self (d : Date) : ofNumbers? d.year d.month d.day = some d :=
  ofNumbers?_eq_some_iff.2 ⟨rfl, rfl, rfl⟩

instance : Inhabited Date := ⟨⟨1970, 1, 1, by decide⟩⟩

/-! ### Order -/

/-- Dates stand in the order of the calendar: by year, then by month, then by day. -/
instance : LT Date :=
  ⟨fun a b => a.year < b.year ∨ a.year = b.year ∧
    (a.month < b.month ∨ a.month = b.month ∧ a.day < b.day)⟩

instance : LE Date := ⟨fun a b => ¬ b < a⟩

theorem lt_def {a b : Date} : a < b ↔ a.year < b.year ∨ a.year = b.year ∧
    (a.month < b.month ∨ a.month = b.month ∧ a.day < b.day) := Iff.rfl

theorem le_def {a b : Date} : a ≤ b ↔ ¬ b < a := Iff.rfl

instance (a b : Date) : Decidable (a < b) := inferInstanceAs (Decidable (_ ∨ _))

instance (a b : Date) : Decidable (a ≤ b) := inferInstanceAs (Decidable (¬ _))

/-! ### Day numbers -/

/-- The number of days before 1 January of a year, counted from 1 January of year 1. -/
def daysBeforeYear (year : Int) : Int :=
  365 * (year - 1) + (year - 1) / 4 - (year - 1) / 100 + (year - 1) / 400

/-- The number of days of a year before the first of a month. -/
def daysBeforeMonth (year month : Int) : Int :=
  (367 * month - 362) / 12 + if month ≤ 2 then 0 else if isLeap year then -1 else -2

/-- The number of a date in the count of days in which 1 January of year 1 is day 1. -/
def dayNumber (d : Date) : Int :=
  daysBeforeYear d.year + daysBeforeMonth d.year d.month + d.day

/-- The year that holds a day: four centuries have 146097 days, and the estimate drawn from that is
off by one year at most. -/
def yearOfDay (n : Int) : Int :=
  let year := 400 * n / 146097 + 1
  if n ≤ daysBeforeYear year then year - 1
  else if daysBeforeYear (year + 1) < n then year + 1
  else year

/-- The month that holds the day of a year with this number, counted from 1. -/
def monthOfDay (year day : Int) : Int :=
  let march := daysBeforeMonth year 3
  let gap := if day ≤ march then 0 else if isLeap year then 1 else 2
  (12 * (day - 1 + gap) + 373) / 367

/-- The date with a day number, when it is a supported one. -/
def ofDayNumber? (n : Int) : Option Date :=
  let year := yearOfDay n
  let day := n - daysBeforeYear year
  let month := monthOfDay year day
  ofNumbers? year month (day - daysBeforeMonth year month)

end Date

end Almanac
