import Almanac.Proofs.Calendar.Clipping
import Almanac.Proofs.Template.FieldText
import Almanac.Proofs.Template.Composition

/-! Offsets that lose a day.

Offsets are applied one after the other, and what a step clips is gone for the next. The year first
and then the month is one step by months, except for a 29 February that the year in between does not
have (`compose_merged`). A step that is taken back ends in the month it came from, and on the day it
came from when the month in between was long enough for it (`compose_back`). -/
namespace Almanac.Template

/-! ### Terms that start at a date -/

/-- The terms that form a date and go on from it by three offsets. -/
def startingAt (base : Date) (years months days : Int32) : Triple Term :=
  ⟨⟨.year, .ofInt (base.valueOf .year), years⟩, ⟨.month, .ofInt (base.valueOf .month), months⟩,
    ⟨.day, .ofInt (base.valueOf .day), days⟩⟩

theorem baseDate_startingAt (base : Date) (years months days : Int32) :
    baseDate (startingAt base years months days) = .ok base :=
  baseDate_eq_ok_iff.2 ⟨(toInt_valueOf base .year).symm, (toInt_valueOf base .month).symm,
    (toInt_valueOf base .day).symm⟩

theorem compose_startingAt_eq_ok_iff {base date : Date} {years months days : Int32} :
    compose (startingAt base years months days) = .ok date ↔
      (base.toDay.addYears years.toInt).Supported ∧
        ((base.toDay.addYears years.toInt).addMonths months.toInt).Supported ∧
          date.toDay =
            ((base.toDay.addYears years.toInt).addMonths months.toInt).addDays days.toInt := by
  rw [compose_eq_ok_iff]
  simp only [baseDate_startingAt, Except.ok.injEq, exists_eq_left', applyOffsets_eq_some_iff]
  rfl

/-- Terms that form a date fail in one way only. -/
theorem compose_startingAt_error {base : Date} {years months days : Int32}
    (h : ∀ date, compose (startingAt base years months days) ≠ .ok date) :
    compose (startingAt base years months days) = .error .beyondCalendar := by
  rw [compose_of_baseDate (baseDate_startingAt ..)] at h ⊢
  cases steps : applyOffsets base (startingAt base years months days) with
  | none => rfl
  | some date =>
    rw [steps] at h
    exact absurd rfl (h date)

/-! ### A year and a month together -/

/-- **Years before months.** When the years lead to a supported year, it makes no difference whether
the years and the months are two steps or one step by the months of both: they end on the same date,
or leave the calendar both times. The exception is 29 February, when the years lead to a year
without it and the months to a month of more than 28 days. Then two steps end a day before one. -/
theorem compose_merged (base : Date) (years months days total : Int32)
    (first : firstYear ≤ base.year + years.toInt) (last : base.year + years.toInt ≤ lastYear)
    (sum : total.toInt = 12 * years.toInt + months.toInt) :
    (¬ base.toDay.LosesDay years.toInt months.toInt →
      (∃ date, compose (startingAt base years months days) = .ok date ∧
        compose (startingAt base 0 total days) = .ok date) ∨
      compose (startingAt base years months days) = .error .beyondCalendar ∧
        compose (startingAt base 0 total days) = .error .beyondCalendar) ∧
    (base.toDay.LosesDay years.toInt months.toInt → ∀ x y,
      compose (startingAt base years months days) = .ok x →
        compose (startingAt base 0 total days) = .ok y → x.toDay.next = y.toDay) := by
  have supported : (base.toDay.addYears years.toInt).Supported := ⟨first, last⟩
  have merged (date : Date) : compose (startingAt base 0 total days) = .ok date ↔
      (base.toDay.addMonths total.toInt).Supported ∧
        date.toDay = (base.toDay.addMonths total.toInt).addDays days.toInt := by
    rw [compose_startingAt_eq_ok_iff, Int32.toInt_zero, Day.addYears_zero]
    exact and_iff_right (Day.supported_toDay base)
  constructor
  · intro kept
    have same (date : Date) : compose (startingAt base years months days) = .ok date ↔
        compose (startingAt base 0 total days) = .ok date := by
      rw [compose_startingAt_eq_ok_iff, merged, Day.addYears_addMonths kept, sum]
      exact and_iff_right supported
    by_cases found : ∃ date, compose (startingAt base years months days) = .ok date
    · obtain ⟨date, found⟩ := found
      exact .inl ⟨date, found, (same date).1 found⟩
    · have none := not_exists.1 found
      exact .inr ⟨compose_startingAt_error none,
        compose_startingAt_error fun date => mt (same date).2 (none date)⟩
  · intro lost x y hx hy
    obtain ⟨-, -, hx⟩ := compose_startingAt_eq_ok_iff.1 hx
    obtain ⟨-, hy⟩ := (merged y).1 hy
    rw [sum, ← Day.next_addYears_addMonths lost] at hy
    apply Day.number_injective
    rw [hx, hy, Day.number_next, Day.number_addDays, Day.number_addDays, Day.number_next]
    omega

/-- From 29 February, a year and a month lead to a day before thirteen months, and a year and twelve
months to the same day as twenty-four. -/
theorem compose_merged_leap_day :
    compose (startingAt ⟨2024, 2, 29, by decide⟩ 1 1 0) = .ok ⟨2025, 3, 28, by decide⟩ ∧
      compose (startingAt ⟨2024, 2, 29, by decide⟩ 0 13 0) = .ok ⟨2025, 3, 29, by decide⟩ ∧
      (⟨2025, 3, 28, by decide⟩ : Date).toDay.next = (⟨2025, 3, 29, by decide⟩ : Date).toDay ∧
      compose (startingAt ⟨2024, 2, 29, by decide⟩ 1 12 0) = .ok ⟨2026, 2, 28, by decide⟩ ∧
      compose (startingAt ⟨2024, 2, 29, by decide⟩ 0 24 0) = .ok ⟨2026, 2, 28, by decide⟩ := by
  have steps : compose (startingAt ⟨2024, 2, 29, by decide⟩ 1 1 0) =
      .ok ⟨2025, 3, 28, by decide⟩ := by decide +kernel
  have once : compose (startingAt ⟨2024, 2, 29, by decide⟩ 0 13 0) =
      .ok ⟨2025, 3, 29, by decide⟩ := by decide +kernel
  have short : compose (startingAt ⟨2024, 2, 29, by decide⟩ 1 12 0) =
      .ok ⟨2026, 2, 28, by decide⟩ := by decide +kernel
  refine ⟨steps, once, ?_, short, ?_⟩
  · exact (compose_merged _ 1 1 0 13 (by decide) (by decide) (by decide)).2 (by decide) _ _ steps
      once
  · have kept := (compose_merged ⟨2024, 2, 29, by decide⟩ 1 12 0 24 (by decide) (by decide)
      (by decide)).1 (by decide)
    obtain ⟨date, named, same⟩ | ⟨beyond, -⟩ := kept
    · obtain rfl := Except.ok.inj (short.symm.trans named)
      exact same
    · cases short.symm.trans beyond

/-! ### There and back -/

/-- How a date that a step is taken back to stands to the one it began at: `q` is the date in
between. -/
structure Returns (p q r : Date) : Prop where
  year : r.year = p.year
  month : r.month = p.month
  day : r.day = min p.day (monthLength q.year q.month)
  notLater : r ≤ p
  near : p.dayNumber - r.dayNumber ≤ 3
  exact_iff : r = p ↔ p.day ≤ monthLength q.year q.month

/-- In one month, the day says how far two dates are apart. -/
theorem dayNumber_sub_of_month {p r : Date} (month : r.toDay.monthNumber = p.toDay.monthNumber) :
    p.dayNumber - r.dayNumber = p.day - r.day := by
  rw [← Day.number_toDay, ← Day.number_toDay, Day.number_eq, Day.number_eq, month]
  show Day.monthStart _ + p.day - (Day.monthStart _ + r.day) = _
  omega

/-- A date returns by its month and its day of it; the rest follows, since no month has more than 31
days or fewer than 28. -/
theorem returns_of_day {p q r : Date} (month : r.toDay.monthNumber = p.toDay.monthNumber)
    (day : r.day = min p.day (monthLength q.year q.month)) : Returns p q r := by
  have sameYear : r.toDay.year = p.toDay.year := by rw [Day.year_eq, Day.year_eq, month]
  have sameMonth : r.toDay.month = p.toDay.month := by rw [Day.month_eq, Day.month_eq, month]
  have distance := dayNumber_sub_of_month month
  refine ⟨sameYear, sameMonth, day, ?_, ?_, ?_⟩
  · rw [Date.le_iff_dayNumber_le]
    omega
  · have long := monthLength_ge q.year q.month
    have short := monthLength_le p.year p.month
    have within : p.day ≤ monthLength p.year p.month := p.toDay.day_le
    omega
  · constructor
    · rintro rfl
      omega
    · intro fits
      exact Date.ext sameYear sameMonth (day.trans (Int.min_eq_left fits))

/-- A step by months that stays in the calendar leads back into it. -/
theorem exists_returns {p q : Date} {months : Int} (h : q.toDay = p.toDay.addMonths months) :
    ∃ r : Date, r.toDay = q.toDay.addMonths (-months) ∧ Returns p q r := by
  have month := Day.monthNumber_addMonths_neg p.toDay months
  have day := Day.day_addMonths_neg p.toDay months
  rw [← Day.monthNumber_addMonths, ← h, Day.lengthOfMonth_monthNumber] at day
  rw [← h] at month
  have supported : (q.toDay.addMonths (-months)).Supported := by
    unfold Day.Supported
    rw [Day.year_eq, month, ← Day.year_eq]
    exact Day.supported_toDay p
  obtain ⟨r, hr⟩ := Date.exists_toDay_eq_iff.2 supported
  rw [← hr] at month day
  exact ⟨r, hr, returns_of_day month day⟩

theorem compose_months_iff {p q : Date} {n : Int32} :
    compose (startingAt p 0 n 0) = .ok q ↔ q.toDay = p.toDay.addMonths n.toInt := by
  rw [compose_startingAt_eq_ok_iff, Int32.toInt_zero, Day.addYears_zero, Day.addDays_zero]
  constructor
  · intro h
    exact h.2.2
  · intro h
    exact ⟨Day.supported_toDay p, h ▸ Day.supported_toDay q, h⟩

theorem compose_years_iff {p q : Date} {n : Int32} :
    compose (startingAt p n 0 0) = .ok q ↔ q.toDay = p.toDay.addMonths (12 * n.toInt) := by
  rw [compose_startingAt_eq_ok_iff, Int32.toInt_zero, Day.addMonths_zero, Day.addDays_zero,
    Day.addMonths_twelve_mul]
  constructor
  · intro h
    exact h.2.2
  · intro h
    exact ⟨h ▸ Day.supported_toDay q, h ▸ Day.supported_toDay q, h⟩

/-- Between two dates there are so few months that their number has a negation in 32 bits. -/
theorem natAbs_months_lt {p q : Date} {months : Int} (h : q.toDay = p.toDay.addMonths months) :
    months.natAbs < 2147483648 := by
  have between : q.toDay.monthNumber = p.toDay.monthNumber + months := by
    rw [h, Day.monthNumber_addMonths]
  have within (d : Date) :
      -10000000 < d.toDay.monthNumber ∧ d.toDay.monthNumber < 10000000 := by
    obtain ⟨first, last, month, month', -, -⟩ := d.isDate
    unfold firstYear lastYear at *
    show -10000000 < 12 * d.year + (d.month - 1) ∧ 12 * d.year + (d.month - 1) < 10000000
    omega
  have := within p
  have := within q
  omega

theorem toInt_neg_of_natAbs_lt {n : Int32} (h : n.toInt.natAbs < 2147483648) : (-n).toInt = -n.toInt := by
  rw [Int32.toInt_neg]
  exact Int.bmod_eq_of_le (by omega) (by omega)

/-- **There and back.** A step by months that stays in the calendar can be taken back, and then ends
in the month where it began, on the same day or on the last one that the month in between had: not
later, at most 3 days earlier, and on the same day exactly when the month in between had it. So it is
for a step by years, where a 29 February that the other year does not have is missed by one day and
every other day is met. The negated number is always one of 32 bits, since no step that stays in the
calendar is as long as the one number without a negation. -/
theorem compose_back :
    (∀ (p q : Date) (n : Int32), compose (startingAt p 0 n 0) = .ok q →
      ∃ r, compose (startingAt q 0 (-n) 0) = .ok r ∧ Returns p q r) ∧
    ∀ (p q : Date) (n : Int32), compose (startingAt p n 0 0) = .ok q →
      ∃ r, compose (startingAt q (-n) 0 0) = .ok r ∧ Returns p q r ∧
        (p.toDay.LeapDayLost q.year → r.toDay.next = p.toDay) ∧
        (¬ p.toDay.LeapDayLost q.year → r = p) := by
  constructor
  · intro p q n h
    have step := compose_months_iff.1 h
    obtain ⟨r, back, returns⟩ := exists_returns step
    refine ⟨r, compose_months_iff.2 ?_, returns⟩
    rw [toInt_neg_of_natAbs_lt (natAbs_months_lt step), back]
  · intro p q n h
    have step := compose_years_iff.1 h
    obtain ⟨r, back, returns⟩ := exists_returns step
    have few : n.toInt.natAbs < 2147483648 := by
      have := natAbs_months_lt step
      omega
    have reached : q.toDay = p.toDay.addYears n.toInt :=
      step.trans (Day.addMonths_twelve_mul _ _)
    have year : q.year = p.year + n.toInt := congrArg Day.year reached
    have month : q.month = p.month := congrArg Day.month reached
    refine ⟨r, compose_years_iff.2 ?_, returns, fun lost => ?_, fun kept => ?_⟩
    · rw [toInt_neg_of_natAbs_lt few, back, Int.mul_neg]
    · rw [back, reached]
      rw [year] at lost
      exact Day.next_addYears_neg lost
    · refine returns.exact_iff.2 (Int.not_lt.1 fun short => kept ?_)
      rw [month] at short
      exact Day.monthLength_lt_iff.1 short

/-- From 31 January to February and back, and from 29 February to a common year and back. -/
theorem compose_back_february :
    Returns ⟨2024, 1, 31, by decide⟩ ⟨2024, 2, 29, by decide⟩ ⟨2024, 1, 29, by decide⟩ ∧
      Returns ⟨2024, 2, 29, by decide⟩ ⟨2021, 2, 28, by decide⟩ ⟨2024, 2, 28, by decide⟩ ∧
      (⟨2024, 2, 28, by decide⟩ : Date).toDay.next = (⟨2024, 2, 29, by decide⟩ : Date).toDay := by
  obtain ⟨r, months, returns⟩ := compose_back.1 ⟨2024, 1, 31, by decide⟩
    ⟨2024, 2, 29, by decide⟩ 1 (by decide +kernel)
  have january : compose (startingAt ⟨2024, 2, 29, by decide⟩ 0 (-1) 0) =
      .ok ⟨2024, 1, 29, by decide⟩ := by decide +kernel
  obtain ⟨s, years, returns', missed, -⟩ := compose_back.2 ⟨2024, 2, 29, by decide⟩
    ⟨2021, 2, 28, by decide⟩ (-3) (by decide +kernel)
  have february : compose (startingAt ⟨2021, 2, 28, by decide⟩ (-(-3)) 0 0) =
      .ok ⟨2024, 2, 28, by decide⟩ := by decide +kernel
  obtain rfl := Except.ok.inj (january.symm.trans months)
  obtain rfl := Except.ok.inj (february.symm.trans years)
  exact ⟨returns, returns', missed (by decide)⟩

end Almanac.Template
