import Almanac.Proofs.Calendar.Day
import Mathlib.Order.Monotone.Basic

/-! The order of the calendar.

Months follow one another without a gap: each begins where the one before it ends
(`monthStart_succ`). Counting days is therefore the same as comparing months first and days of the
month second (`number_lt_iff`), a day is told by its number (`number_injective`), and the dates stand
in the order of their numbers (`le_iff_dayNumber_le`). A step keeps this order: two days that go the
same way do not pass each other, though a step by months may bring them to the same day. -/
namespace Almanac

namespace Day

/-! ### Months in a row

A month is counted from January of year 0, as a step by months counts it. -/

/-- The number of days before a month, counted from 1 January of year 1. -/
def monthStart (k : Int) : Int :=
  Date.daysBeforeYear (k / 12) + Date.daysBeforeMonth (k / 12) (k % 12 + 1)

/-- The number of days of a month. -/
def lengthOfMonth (k : Int) : Int :=
  monthLength (k / 12) (k % 12 + 1)

theorem lengthOfMonth_pos (k : Int) : 0 < lengthOfMonth k := by
  have := monthLength_ge (k / 12) (k % 12 + 1)
  unfold lengthOfMonth
  omega

theorem monthStart_succ (k : Int) : monthStart (k + 1) = monthStart k + lengthOfMonth k := by
  unfold monthStart lengthOfMonth
  by_cases december : k % 12 = 11
  · have year : (k + 1) / 12 = k / 12 + 1 := by omega
    have month : (k + 1) % 12 + 1 = 1 := by omega
    have := daysBeforeMonth_twelve (k / 12)
    have twelve : k % 12 + 1 = 12 := by omega
    rw [year, month, twelve, daysBeforeYear_succ, daysBeforeMonth_one]
    omega
  · have year : (k + 1) / 12 = k / 12 := by omega
    have month : (k + 1) % 12 = k % 12 + 1 := by omega
    rw [year, month, daysBeforeMonth_succ _ _ (by omega) (by omega)]
    omega

theorem monthStart_mono {k l : Int} (h : k ≤ l) : monthStart k ≤ monthStart l := by
  have forwards : StrictMono monthStart := strictMono_int_of_lt_succ fun k => by
    have := lengthOfMonth_pos k
    rw [monthStart_succ]
    omega
  exact forwards.monotone h

/-- The month of a day. -/
def monthNumber (d : Day) : Int :=
  12 * d.year + (d.month - 1)

theorem year_eq (d : Day) : d.year = d.monthNumber / 12 := by
  have := d.month_ge
  have := d.month_le
  unfold monthNumber
  omega

theorem month_eq (d : Day) : d.month = d.monthNumber % 12 + 1 := by
  have := d.month_ge
  have := d.month_le
  unfold monthNumber
  omega

theorem lengthOfMonth_monthNumber (d : Day) :
    lengthOfMonth d.monthNumber = monthLength d.year d.month := by
  rw [lengthOfMonth, ← year_eq, ← month_eq]

theorem day_le_length (d : Day) : d.day ≤ lengthOfMonth d.monthNumber := by
  rw [lengthOfMonth_monthNumber]
  exact d.day_le

theorem number_eq (d : Day) : d.number = monthStart d.monthNumber + d.day := by
  rw [monthStart, ← year_eq, ← month_eq]
  rfl

/-- All days of a month come before those of a later one. -/
theorem number_lt_of_monthNumber_lt {d e : Day} (h : d.monthNumber < e.monthNumber) :
    d.number < e.number := by
  have next := monthStart_mono (Int.add_one_le_of_lt h)
  have last := d.day_le_length
  have first := e.day_ge
  rw [monthStart_succ] at next
  rw [number_eq, number_eq]
  omega

/-- Days are counted month by month. -/
theorem number_lt_iff {d e : Day} : d.number < e.number ↔
    d.monthNumber < e.monthNumber ∨ d.monthNumber = e.monthNumber ∧ d.day < e.day := by
  rcases Int.lt_trichotomy d.monthNumber e.monthNumber with earlier | same | later
  · have := number_lt_of_monthNumber_lt earlier
    omega
  · rw [number_eq, number_eq, same]
    omega
  · have := number_lt_of_monthNumber_lt later
    omega

theorem number_le_iff {d e : Day} : d.number ≤ e.number ↔
    d.monthNumber < e.monthNumber ∨ d.monthNumber = e.monthNumber ∧ d.day ≤ e.day := by
  rw [← Int.not_lt, number_lt_iff]
  omega

/-- A day is told by its month and its place in it. -/
theorem eq_of_monthNumber_eq {d e : Day} (month : d.monthNumber = e.monthNumber)
    (day : d.day = e.day) : d = e :=
  Day.ext (by rw [year_eq, year_eq, month]) (by rw [month_eq, month_eq, month]) day

/-- No two days have the same number. -/
theorem number_injective : Function.Injective number := by
  intro d e h
  have below := number_le_iff.1 (Int.le_of_eq h)
  have above := number_le_iff.1 (Int.le_of_eq h.symm)
  exact eq_of_monthNumber_eq (by omega) (by omega)

/-! ### Steps by days -/

/-- From one day to another there is one step by days. -/
theorem addDays_eq_iff {d e : Day} {n : Int} : d.addDays n = e ↔ d.number + n = e.number := by
  rw [← number_addDays]
  exact number_injective.eq_iff.symm

theorem addDays_zero (d : Day) : d.addDays 0 = d :=
  addDays_eq_iff.2 (Int.add_zero _)

theorem addDays_addDays (d : Day) (n m : Int) : (d.addDays n).addDays m = d.addDays (n + m) := by
  rw [addDays_eq_iff, number_addDays, number_addDays, Int.add_assoc]

/-! ### Steps keep the order -/

theorem monthNumber_addMonths (d : Day) (months : Int) :
    (d.addMonths months).monthNumber = d.monthNumber + months := by
  simp only [monthNumber, addMonths, inMonth]
  omega

theorem day_addMonths (d : Day) (months : Int) :
    (d.addMonths months).day = min d.day (lengthOfMonth (d.monthNumber + months)) := rfl

/-- Clipping may bring two days together, but not out of order. -/
theorem number_addMonths_le {d e : Day} (h : d.number ≤ e.number) (months : Int) :
    (d.addMonths months).number ≤ (e.addMonths months).number := by
  rw [number_le_iff] at h ⊢
  rw [monthNumber_addMonths, monthNumber_addMonths, day_addMonths, day_addMonths]
  rcases h with earlier | ⟨same, day⟩
  · exact .inl (by omega)
  · rw [same]
    exact .inr ⟨rfl, by omega⟩

theorem number_addYears_le {d e : Day} (h : d.number ≤ e.number) (years : Int) :
    (d.addYears years).number ≤ (e.addYears years).number := by
  rw [← addMonths_twelve_mul, ← addMonths_twelve_mul]
  exact number_addMonths_le h _

theorem number_addDays_le {d e : Day} (h : d.number ≤ e.number) (days : Int) :
    (d.addDays days).number ≤ (e.addDays days).number := by
  rw [number_addDays, number_addDays]
  omega

end Day

/-! ### Dates -/

namespace Date

theorem lt_iff_dayNumber_lt {a b : Date} : a < b ↔ a.dayNumber < b.dayNumber := by
  rw [← Day.number_toDay, ← Day.number_toDay, Day.number_lt_iff, lt_def]
  obtain ⟨-, -, first, last, -, -⟩ := a.isDate
  obtain ⟨-, -, first', last', -, -⟩ := b.isDate
  simp only [Day.monthNumber, toDay]
  omega

/-- The dates stand in the order of their numbers. -/
theorem le_iff_dayNumber_le {a b : Date} : a ≤ b ↔ a.dayNumber ≤ b.dayNumber := by
  rw [le_def, lt_iff_dayNumber_lt, Int.not_lt]

/-- No two dates have the same number. -/
theorem dayNumber_injective : Function.Injective dayNumber := by
  intro a b h
  have notBefore : ¬ a < b := mt lt_iff_dayNumber_lt.1 (by omega)
  have notAfter : ¬ b < a := mt lt_iff_dayNumber_lt.1 (by omega)
  rw [lt_def] at notBefore notAfter
  exact Date.ext (by omega) (by omega) (by omega)

instance : Std.IsLinearOrder Date where
  le_refl _ := le_iff_dayNumber_le.2 (Int.le_refl _)
  le_trans _ _ _ h h' :=
    le_iff_dayNumber_le.2 (Int.le_trans (le_iff_dayNumber_le.1 h) (le_iff_dayNumber_le.1 h'))
  le_antisymm _ _ h h' := dayNumber_injective
    (Int.le_antisymm (le_iff_dayNumber_le.1 h) (le_iff_dayNumber_le.1 h'))
  le_total a b := (Int.le_total a.dayNumber b.dayNumber).imp le_iff_dayNumber_le.2
    le_iff_dayNumber_le.2

instance : Std.LawfulOrderLT Date where
  lt_iff a b := by
    rw [lt_iff_dayNumber_lt, le_iff_dayNumber_le, le_iff_dayNumber_le]
    omega

/-- The supported years have fewer than two hundred million days. -/
theorem dayNumber_sub_lt (a b : Date) : b.dayNumber - a.dayNumber < 200000000 := by
  have within (d : Date) : -100000000 < d.dayNumber ∧ d.dayNumber < 100000000 := by
    obtain ⟨first, last, month, month', day, day'⟩ := d.isDate
    have years := Day.daysBeforeYear_near d.year
    have months := Day.daysBeforeMonth_within d.year month month'
    unfold Day.yearLength at months
    unfold firstYear lastYear at *
    unfold dayNumber
    split at months <;> omega
  have := within a
  have := within b
  omega

end Date

end Almanac
