import Almanac.Proofs.Calendar.Order

/-! What clipping takes away.

A step by months that ends in too short a month loses the days by which the month is too short, and
the next step starts without them. So two steps one after the other end in the same month as the step
by their sum, and on the same day of it unless the month in between was too short
(`day_addMonths_addMonths`). For a step by years there is one day that can be lost, 29 February
(`lengthOfMonth_years_lt_iff`). -/
namespace Almanac.Day

/-- Two steps end in the month of one, with a day that fits both months. -/
theorem day_addMonths_addMonths (d : Day) (n m : Int) :
    ((d.addMonths n).addMonths m).day =
      min (min d.day (lengthOfMonth (d.monthNumber + n)))
        (lengthOfMonth (d.monthNumber + (n + m))) := by
  rw [day_addMonths, day_addMonths, monthNumber_addMonths, Int.add_assoc]

theorem monthNumber_addMonths_addMonths (d : Day) (n m : Int) :
    ((d.addMonths n).addMonths m).monthNumber = d.monthNumber + (n + m) := by
  rw [monthNumber_addMonths, monthNumber_addMonths, Int.add_assoc]

/-- Nothing is lost in a month that is long enough for the day, or for the day that is reached. -/
theorem addMonths_addMonths {d : Day} {n m : Int}
    (h : d.day ≤ lengthOfMonth (d.monthNumber + n) ∨
      lengthOfMonth (d.monthNumber + (n + m)) ≤ lengthOfMonth (d.monthNumber + n)) :
    (d.addMonths n).addMonths m = d.addMonths (n + m) := by
  apply eq_of_monthNumber_eq
  · rw [monthNumber_addMonths_addMonths, monthNumber_addMonths]
  · rw [day_addMonths_addMonths, day_addMonths]
    omega

/-! ### There and back -/

theorem monthNumber_addMonths_neg (d : Day) (n : Int) :
    ((d.addMonths n).addMonths (-n)).monthNumber = d.monthNumber := by
  rw [monthNumber_addMonths_addMonths]
  omega

/-- The way back ends on the day, as far as the month in between had it. -/
theorem day_addMonths_neg (d : Day) (n : Int) :
    ((d.addMonths n).addMonths (-n)).day = min d.day (lengthOfMonth (d.monthNumber + n)) := by
  have within := d.day_le_length
  rw [day_addMonths_addMonths, Int.add_right_neg, Int.add_zero]
  omega

/-! ### Steps by years -/

/-- The day is 29 February, and a year does not have it. -/
def LeapDayLost (d : Day) (year : Int) : Prop :=
  d.month = 2 ∧ d.day = 29 ∧ isLeap year = false

instance (d : Day) (year : Int) : Decidable (d.LeapDayLost year) :=
  inferInstanceAs (Decidable (_ ∧ _))

/-- The same month of another year. -/
theorem lengthOfMonth_years (d : Day) (years : Int) :
    lengthOfMonth (d.monthNumber + 12 * years) = monthLength (d.year + years) d.month := by
  have year : (d.monthNumber + 12 * years) / 12 = d.year + years := by
    have := d.year_eq
    omega
  have month : (d.monthNumber + 12 * years) % 12 + 1 = d.month := by
    have := d.month_eq
    omega
  rw [lengthOfMonth, year, month]

/-- The only day that another year may not have is 29 February. -/
theorem monthLength_lt_iff {d : Day} {year : Int} :
    monthLength year d.month < d.day ↔ d.LeapDayLost year := by
  have within := d.day_le
  unfold LeapDayLost
  by_cases february : d.month = 2
  · simp only [february, monthLength, if_true] at within ⊢
    cases isLeap year with
    | true => simp; split at within <;> omega
    | false => simp; split at within <;> omega
  · have same : monthLength year d.month = monthLength d.year d.month := by
      simp only [monthLength, if_neg february]
    rw [same]
    simp only [february, false_and, iff_false]
    omega

/-- In a year that does not have 29 February the month ends a day before it. -/
theorem LeapDayLost.length {d : Day} {year : Int} (h : d.LeapDayLost year) :
    monthLength year d.month = 28 ∧ d.day = 29 := by
  obtain ⟨february, day, common⟩ := h
  rw [monthLength, if_pos february, common]
  exact ⟨rfl, day⟩

/-- A step by years loses 29 February, and the month that the months lead to would have had it. -/
def LosesDay (d : Day) (years months : Int) : Prop :=
  d.LeapDayLost (d.year + years) ∧
    28 < lengthOfMonth (d.monthNumber + (12 * years + months))

instance (d : Day) (years months : Int) : Decidable (d.LosesDay years months) :=
  inferInstanceAs (Decidable (_ ∧ _))

/-- A step by years and a step by months are one step by months when no day is lost. -/
theorem addYears_addMonths {d : Day} {years months : Int} (h : ¬ d.LosesDay years months) :
    (d.addYears years).addMonths months = d.addMonths (12 * years + months) := by
  rw [← addMonths_twelve_mul]
  apply addMonths_addMonths
  rw [lengthOfMonth_years]
  by_cases lost : d.LeapDayLost (d.year + years)
  · have short := Int.not_lt.1 fun long => h ⟨lost, long⟩
    exact .inr (Int.le_trans short (monthLength_ge _ _))
  · exact .inl (Int.not_lt.1 (mt monthLength_lt_iff.1 lost))

/-- A day that is lost is missed by one. -/
theorem next_addYears_addMonths {d : Day} {years months : Int} (h : d.LosesDay years months) :
    ((d.addYears years).addMonths months).next = d.addMonths (12 * years + months) := by
  obtain ⟨lost, long⟩ := h
  obtain ⟨short, day⟩ := lost.length
  apply number_injective
  rw [← addMonths_twelve_mul, number_next, number_eq, number_eq, monthNumber_addMonths_addMonths,
    day_addMonths_addMonths, monthNumber_addMonths, day_addMonths, lengthOfMonth_years, short, day]
  omega

/-- The way back from a year without 29 February misses it by one day. -/
theorem next_addYears_neg {d : Day} {years : Int} (lost : d.LeapDayLost (d.year + years)) :
    ((d.addYears years).addMonths (-(12 * years))).next = d := by
  have loses : d.LosesDay years (-(12 * years)) := by
    have long := d.day_le_length
    have day := lost.length.2
    refine ⟨lost, ?_⟩
    rw [Int.add_right_neg, Int.add_zero]
    omega
  rw [next_addYears_addMonths loses, Int.add_right_neg, addMonths_zero]

end Almanac.Day
