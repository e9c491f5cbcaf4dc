import Almanac.Calendar.Step
import Mathlib.Logic.Function.Iterate

/-! The calendar without its ends.

A `Day` is a day of the proleptic Gregorian calendar in any year whatever. `next` and `previous`
turn one leaf of the calendar, and `addDays` turns as many as it is told: this is what a step by
days means. The day number of a date is a shorter way to the same end. `number_addDays` says that
it counts leaves, and `ofDayNumber?_number` that the date with the number of a day is that day,
when the day is a supported one. -/
namespace Almanac

/-- A day of the calendar, in any year. -/
@[ext] structure Day where
  year : Int
  month : Int
  day : Int
  month_ge : 1 ≤ month
  month_le : month ≤ 12
  day_ge : 1 ≤ day
  day_le : day ≤ monthLength year month

/-- A date among the days. -/
def Date.toDay (d : Date) : Day where
  year := d.year
  month := d.month
  day := d.day
  month_ge := d.isDate.2.2.1
  month_le := d.isDate.2.2.2.1
  day_ge := d.isDate.2.2.2.2.1
  day_le := d.isDate.2.2.2.2.2

namespace Day

/-- Whether a day lies in a supported year. -/
def Supported (d : Day) : Prop :=
  firstYear ≤ d.year ∧ d.year ≤ lastYear

theorem supported_toDay (d : Date) : d.toDay.Supported :=
  ⟨d.isDate.1, d.isDate.2.1⟩

theorem isDate_iff (d : Day) : IsDate d.year d.month d.day ↔ d.Supported :=
  ⟨fun h => ⟨h.1, h.2.1⟩, fun h => ⟨h.1, h.2, d.month_ge, d.month_le, d.day_ge, d.day_le⟩⟩

/-! ### Turning leaves -/

/-- The day after. -/
def next (d : Day) : Day :=
  if within : d.day < monthLength d.year d.month then
    { d with day := d.day + 1, day_ge := by have := d.day_ge; omega, day_le := within }
  else if months : d.month < 12 then
    { year := d.year, month := d.month + 1, day := 1
      month_ge := by have := d.month_ge; omega
      month_le := months
      day_ge := Int.le_refl 1
      day_le := by have := monthLength_ge d.year (d.month + 1); omega }
  else
    { year := d.year + 1, month := 1, day := 1
      month_ge := Int.le_refl 1
      month_le := by decide
      day_ge := Int.le_refl 1
      day_le := by have := monthLength_ge (d.year + 1) 1; omega }

/-- The day before. -/
def previous (d : Day) : Day :=
  if within : 1 < d.day then
    { d with day := d.day - 1, day_ge := by omega, day_le := by have := d.day_le; omega }
  else if months : 1 < d.month then
    { year := d.year, month := d.month - 1, day := monthLength d.year (d.month - 1)
      month_ge := by omega
      month_le := by have := d.month_le; omega
      day_ge := by have := monthLength_ge d.year (d.month - 1); omega
      day_le := Int.le_refl _ }
  else
    { year := d.year - 1, month := 12, day := 31
      month_ge := by decide
      month_le := Int.le_refl 12
      day_ge := by decide
      day_le := Int.le_refl 31 }

/-- The day a number of days later, or earlier when the number is negative. -/
def addDays (d : Day) : Int → Day
  | .ofNat n => next^[n] d
  | .negSucc n => previous^[n + 1] d

/-! ### The number of a day -/

/-- The number of a day in the count of days in which 1 January of year 1 is day 1. -/
def number (d : Day) : Int :=
  Date.daysBeforeYear d.year + Date.daysBeforeMonth d.year d.month + d.day

theorem number_toDay (d : Date) : d.toDay.number = d.dayNumber := rfl

/-- The number of days of a year. -/
def yearLength (year : Int) : Int :=
  if isLeap year then 366 else 365

theorem isLeap_iff {year : Int} :
    isLeap year = true ↔ year % 4 = 0 ∧ (year % 100 ≠ 0 ∨ year % 400 = 0) := by
  simp [isLeap]

theorem daysBeforeYear_succ (year : Int) :
    Date.daysBeforeYear (year + 1) = Date.daysBeforeYear year + yearLength year := by
  unfold Date.daysBeforeYear yearLength
  by_cases h : isLeap year = true
  · have leap := isLeap_iff.1 h
    rw [if_pos h]
    omega
  · have common := mt isLeap_iff.2 h
    rw [if_neg h]
    omega

/-- The twelve months. -/
theorem month_cases {month : Int} (first : 1 ≤ month) (last : month ≤ 12) :
    month = 1 ∨ month = 2 ∨ month = 3 ∨ month = 4 ∨ month = 5 ∨ month = 6 ∨ month = 7 ∨
      month = 8 ∨ month = 9 ∨ month = 10 ∨ month = 11 ∨ month = 12 := by
  omega

theorem daysBeforeMonth_one (year : Int) : Date.daysBeforeMonth year 1 = 0 := rfl

/-- A month begins where the month before it ends. -/
theorem daysBeforeMonth_succ (year month : Int) (first : 1 ≤ month) (last : month < 12) :
    Date.daysBeforeMonth year (month + 1) =
      Date.daysBeforeMonth year month + monthLength year month := by
  rcases month_cases first (Int.le_of_lt last) with
    rfl | rfl | rfl | rfl | rfl | rfl | rfl | rfl | rfl | rfl | rfl | rfl <;>
    cases h : isLeap year <;> simp [Date.daysBeforeMonth, monthLength, h] at last ⊢

/-- December ends with the year. -/
theorem daysBeforeMonth_twelve (year : Int) :
    Date.daysBeforeMonth year 12 + monthLength year 12 = yearLength year := by
  cases h : isLeap year <;> simp [Date.daysBeforeMonth, monthLength, yearLength, h]

theorem number_next (d : Day) : d.next.number = d.number + 1 := by
  have hge := d.day_ge
  have hle := d.day_le
  unfold next
  split
  · simp only [number]
    omega
  · split
    · next months =>
      have := daysBeforeMonth_succ d.year d.month d.month_ge months
      simp only [number]
      omega
    · have december : d.month = 12 := by have := d.month_le; omega
      have := daysBeforeYear_succ d.year
      have := daysBeforeMonth_twelve d.year
      have := daysBeforeMonth_one (d.year + 1)
      simp only [number, december] at *
      omega

theorem number_previous (d : Day) : d.previous.number = d.number - 1 := by
  have hge := d.day_ge
  unfold previous
  split
  · simp only [number]
    omega
  · split
    · next months =>
      have := daysBeforeMonth_succ d.year (d.month - 1) (by omega) (by have := d.month_le; omega)
      rw [Int.sub_add_cancel] at this
      simp only [number]
      omega
    · have january : d.month = 1 := by have := d.month_ge; omega
      have := daysBeforeYear_succ (d.year - 1)
      have := daysBeforeMonth_twelve (d.year - 1)
      have := daysBeforeMonth_one d.year
      have : monthLength (d.year - 1) 12 = 31 := rfl
      rw [Int.sub_add_cancel] at *
      simp only [number, january] at *
      omega

theorem number_iterate_next (n : Nat) (d : Day) : (next^[n] d).number = d.number + n := by
  induction n generalizing d with
  | zero => simp
  | succ n ih =>
    rw [Function.iterate_succ_apply, ih, number_next]
    omega

theorem number_iterate_previous (n : Nat) (d : Day) : (previous^[n] d).number = d.number - n := by
  induction n generalizing d with
  | zero => simp
  | succ n ih =>
    rw [Function.iterate_succ_apply, ih, number_previous]
    omega

/-- The number of a day counts leaves. -/
theorem number_addDays (d : Day) (n : Int) : (d.addDays n).number = d.number + n := by
  cases n with
  | ofNat n => exact number_iterate_next n d
  | negSucc n =>
    rw [addDays, number_iterate_previous, Int.negSucc_eq]
    omega

/-! ### The day of a number -/

/-- Four centuries have 146097 days, and the days before a year are never far from that rate. -/
theorem daysBeforeYear_near (year : Int) :
    146097 * (year - 1) - 699 ≤ 400 * Date.daysBeforeYear year ∧
      400 * Date.daysBeforeYear year ≤ 146097 * (year - 1) + 396 := by
  unfold Date.daysBeforeYear
  omega

/-- The estimate of the year is right, or off by one in the direction that is looked at. -/
theorem yearOfDay_eq {n year : Int} (after : Date.daysBeforeYear year < n)
    (within : n ≤ Date.daysBeforeYear (year + 1)) : Date.yearOfDay n = year := by
  have lower := (daysBeforeYear_near year).1
  have upper := (daysBeforeYear_near (year + 1)).2
  have estimate : 400 * n / 146097 + 1 = year - 1 ∨ 400 * n / 146097 + 1 = year ∨
      400 * n / 146097 + 1 = year + 1 := by omega
  unfold Date.yearOfDay
  rcases estimate with early | exact | late
  · have before : Date.daysBeforeYear (year - 1) < n := by
      have := daysBeforeYear_succ (year - 1)
      rw [Int.sub_add_cancel] at this
      unfold yearLength at this
      split at this <;> omega
    simp only [early, Int.sub_add_cancel]
    rw [if_neg (by omega), if_pos after]
  · simp only [exact]
    rw [if_neg (by omega), if_neg (by omega)]
  · simp only [late]
    rw [if_pos within, Int.add_sub_cancel]

/-- March to July and August to December repeat the lengths of five months, 153 days in all. -/
theorem monthOfDay_eq {year month day : Int} (first : 1 ≤ month) (last : month ≤ 12)
    (after : Date.daysBeforeMonth year month < day)
    (within : day ≤ Date.daysBeforeMonth year month + monthLength year month) :
    Date.monthOfDay year day = month := by
  rcases month_cases first last with
    rfl | rfl | rfl | rfl | rfl | rfl | rfl | rfl | rfl | rfl | rfl | rfl <;>
    cases h : isLeap year <;>
      simp [Date.daysBeforeMonth, monthLength, Date.monthOfDay, h] at after within ⊢ <;> omega

/-- The months of a year lie within the year. -/
theorem daysBeforeMonth_within (year : Int) {month : Int} (first : 1 ≤ month) (last : month ≤ 12) :
    0 ≤ Date.daysBeforeMonth year month ∧
      Date.daysBeforeMonth year month + monthLength year month ≤ yearLength year := by
  rcases month_cases first last with
    rfl | rfl | rfl | rfl | rfl | rfl | rfl | rfl | rfl | rfl | rfl | rfl <;>
    cases h : isLeap year <;> simp [Date.daysBeforeMonth, monthLength, yearLength, h]

theorem yearOfDay_number (d : Day) : Date.yearOfDay d.number = d.year := by
  have hge := d.day_ge
  have hle := d.day_le
  obtain ⟨start, finish⟩ := daysBeforeMonth_within d.year d.month_ge d.month_le
  apply yearOfDay_eq
  · unfold number
    omega
  · rw [daysBeforeYear_succ]
    unfold number
    omega

/-- The date with the number of a day is that day. -/
theorem ofDayNumber?_number (d : Day) :
    Date.ofDayNumber? d.number = Date.ofNumbers? d.year d.month d.day := by
  have dayOfYear : d.number - Date.daysBeforeYear d.year =
      Date.daysBeforeMonth d.year d.month + d.day := by
    unfold number
    omega
  have hge := d.day_ge
  have hle := d.day_le
  have month : Date.monthOfDay d.year (Date.daysBeforeMonth d.year d.month + d.day) = d.month :=
    monthOfDay_eq d.month_ge d.month_le (by omega) (by omega)
  simp only [Date.ofDayNumber?, yearOfDay_number, dayOfYear, month]
  congr 1
  omega

/-! ### Steps

A step by years or by months keeps the day of the month if the month reached has it, and goes to
the last day of that month if it has not. -/

/-- The same day of a month, or its last day. -/
def inMonth (d : Day) (year month : Int) (first : 1 ≤ month) (last : month ≤ 12) : Day where
  year := year
  month := month
  day := min d.day (monthLength year month)
  month_ge := first
  month_le := last
  day_ge := by
    have := d.day_ge
    have := monthLength_ge year month
    omega
  day_le := Int.min_le_right _ _

/-- The day a number of years later. -/
def addYears (d : Day) (years : Int) : Day :=
  d.inMonth (d.year + years) d.month d.month_ge d.month_le

/-- The day a number of months later, with the months counted from January of year 0. -/
def addMonths (d : Day) (months : Int) : Day :=
  let k := 12 * d.year + (d.month - 1) + months
  d.inMonth (k / 12) (k % 12 + 1) (by omega) (by omega)

/-- Twelve months are a year. -/
theorem addMonths_twelve_mul (d : Day) (years : Int) : d.addMonths (12 * years) = d.addYears years := by
  have hge := d.month_ge
  have hle := d.month_le
  have year : (12 * d.year + (d.month - 1) + 12 * years) / 12 = d.year + years := by omega
  have month : (12 * d.year + (d.month - 1) + 12 * years) % 12 + 1 = d.month := by omega
  simp only [addMonths, addYears, inMonth, year, month]

theorem addYears_zero (d : Day) : d.addYears 0 = d :=
  Day.ext (Int.add_zero _) rfl (by
    show min d.day (monthLength (d.year + 0) d.month) = d.day
    rw [Int.add_zero]
    exact Int.min_eq_left d.day_le)

theorem addMonths_zero (d : Day) : d.addMonths 0 = d :=
  (addMonths_twelve_mul d 0).trans d.addYears_zero

end Day

/-! ### Steps of dates

A step of a date ends on the date that the step of the day ends on, and has no result exactly when
that day is not a supported one. -/

namespace Date

/-- The date that a day is, when it is a supported one. -/
def ofDay? (d : Day) : Option Date :=
  ofNumbers? d.year d.month d.day

theorem ofDay?_eq_some_iff {d : Day} {date : Date} : ofDay? d = some date ↔ date.toDay = d := by
  rw [ofDay?, ofNumbers?_eq_some_iff, Day.ext_iff]
  rfl

theorem ofDay?_toDay (date : Date) : ofDay? date.toDay = some date :=
  ofDay?_eq_some_iff.2 rfl

theorem exists_toDay_eq_iff {d : Day} : (∃ date : Date, date.toDay = d) ↔ d.Supported := by
  constructor
  · intro h
    obtain ⟨date, rfl⟩ := h
    exact Day.supported_toDay date
  · intro h
    exact ⟨⟨d.year, d.month, d.day, d.isDate_iff.2 h⟩, rfl⟩

theorem addMonths?_eq (d : Date) (months : Int) :
    d.addMonths? months = ofDay? (d.toDay.addMonths months) := rfl

theorem addMonths?_zero (d : Date) : d.addMonths? 0 = some d := by
  rw [addMonths?_eq, Day.addMonths_zero, ofDay?_toDay]

theorem addDays?_eq (d : Date) (days : Int) : d.addDays? days = ofDay? (d.toDay.addDays days) := by
  rw [addDays?, ← Day.number_toDay, ← Day.number_addDays, Day.ofDayNumber?_number]
  rfl

end Date

end Almanac
