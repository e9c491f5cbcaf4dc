import Almanac.Proofs.Calendar.Day
import Almanac.Template.Compose

/-! Composition is exact.

Terms are numbers of 32 bits, and on the way to a date they are narrowed, widened, multiplied and
stripped of their sign. None of this shows: `compose_exact` says what `compose` does in integers
without bounds and days without ends. A narrowing fails only where the step would leave the
supported years anyway (`stepMonths?_eq`), and the product of a step by years fits its 64 bits
(`toInt_monthsOfYears`). -/
namespace Almanac.Template

/-! ### Counts -/

theorem count?_of_neg {n : Int32} (h : n.toInt < 0) : count? n = none := by
  have : n < 0 := Int32.lt_iff_toInt_lt.2 (by rwa [Int32.toInt_zero])
  rw [count?, if_pos this]

theorem count?_of_nonneg {n : Int32} (h : 0 ≤ n.toInt) :
    ∃ count, count? n = some count ∧ (count.toNat : Int) = n.toInt := by
  have nonneg : 0 ≤ n := Int32.le_iff_toInt_le.2 (by rwa [Int32.toInt_zero])
  have notNeg : ¬ n < 0 := fun h' => by
    have := Int32.lt_iff_toInt_lt.1 h'
    rw [Int32.toInt_zero] at this
    omega
  refine ⟨n.toUInt32, by rw [count?, if_neg notNeg], ?_⟩
  rw [Int32.toNat_toUInt32_of_le nonneg, Int32.cast_toNatClampNeg n nonneg]

theorem toNat_distance (n : Int64) : (distance n).toNat = n.toInt.natAbs := by
  show n.toBitVec.abs.toNat = n.toBitVec.toInt.natAbs
  rw [BitVec.toNat_abs, BitVec.toInt_eq_msb_cond]
  have := n.toBitVec.isLt
  split <;> omega

theorem narrow?_of_lt {n : UInt64} (h : n.toNat < 4294967296) :
    ∃ count, narrow? n = some count ∧ count.toNat = n.toNat := by
  have fits : n ≤ 4294967295 := UInt64.le_iff_toNat_le.2 (Nat.le_of_lt_succ h)
  refine ⟨n.toUInt32, by rw [narrow?, if_pos fits], ?_⟩
  rw [UInt64.toNat_toUInt32, Nat.mod_eq_of_lt h]

theorem narrow?_of_le {n : UInt64} (h : 4294967296 ≤ n.toNat) : narrow? n = none := by
  have large : ¬ n ≤ 4294967295 := fun fits =>
    Nat.not_le.2 (Nat.lt_succ_of_le (UInt64.le_iff_toNat_le.1 fits)) h
  rw [narrow?, if_neg large]

/-! ### The base date -/

/-- Three bases form a date when, as integers, they are one. -/
theorem dateOfBases?_eq (terms : Triple Term) : dateOfBases? terms =
    Date.ofNumbers? terms.year.base.toInt terms.month.base.toInt terms.day.base.toInt := by
  by_cases month : 0 ≤ terms.month.base.toInt
  · obtain ⟨m, hm, hm'⟩ := count?_of_nonneg month
    by_cases day : 0 ≤ terms.day.base.toInt
    · obtain ⟨d, hd, hd'⟩ := count?_of_nonneg day
      simp [dateOfBases?, hm, hd, hm', hd']
    · have none : Date.ofNumbers? terms.year.base.toInt terms.month.base.toInt
          terms.day.base.toInt = none :=
        Date.ofNumbers?_eq_none_iff.2 fun h => day (Int.le_trans (by decide) h.2.2.2.2.1)
      simp [dateOfBases?, hm, count?_of_neg (Int.not_le.1 day), none]
  · have none : Date.ofNumbers? terms.year.base.toInt terms.month.base.toInt
        terms.day.base.toInt = none :=
      Date.ofNumbers?_eq_none_iff.2 fun h => month (Int.le_trans (by decide) h.2.2.1)
    simp [dateOfBases?, count?_of_neg (Int.not_le.1 month), none]

/-! ### The offsets -/

theorem toInt_monthsOfYears (years : Int32) : (monthsOfYears years).toInt = 12 * years.toInt := by
  have := years.toInt_lt
  have := years.le_toInt
  have twelve : (12 : Int64).toInt = 12 := rfl
  rw [monthsOfYears, Int64.toInt_mul, Int32.toInt_toInt64, twelve, Int.mul_comm]
  exact Int.bmod_eq_of_le (by omega) (by omega)

/-- A step by more months than a count can hold leaves the supported years. -/
theorem stepMonths?_eq (d : Date) (months : Int64) :
    stepMonths? d months = d.addMonths? months.toInt := by
  have length := toNat_distance months
  by_cases fits : months.toInt.natAbs < 4294967296
  · obtain ⟨count, narrow, value⟩ := narrow?_of_lt (length ▸ fits)
    have signed : (if months < 0 then -(count.toNat : Int) else count.toNat) = months.toInt := by
      rw [value, length]
      simp only [Int64.lt_iff_toInt_lt, Int64.toInt_zero]
      split <;> omega
    simp only [stepMonths?, narrow, Option.bind_eq_bind, Option.bind_some, signed]
  · -- 2³² months are more than there are between the first and the last supported year.
    have beyond : d.addMonths? months.toInt = none := by
      obtain ⟨first, last, month, month', -, -⟩ := d.isDate
      rw [Date.addMonths?_eq_none_iff, Date.monthNumber]
      unfold firstYear lastYear at *
      omega
    rw [beyond, stepMonths?, narrow?_of_le (length ▸ Nat.not_lt.1 fits)]
    rfl

/-- The day that the offset by years leads to. -/
def dayAfterYears (base : Day) (terms : Triple Term) : Day :=
  base.addYears terms.year.offset.toInt

/-- The day that the offset by months leads to from there. -/
def dayAfterMonths (base : Day) (terms : Triple Term) : Day :=
  (dayAfterYears base terms).addMonths terms.month.offset.toInt

/-- The day that the offset by days leads to from there. -/
def dayAfterDays (base : Day) (terms : Triple Term) : Day :=
  (dayAfterMonths base terms).addDays terms.day.offset.toInt

/-- The offsets lead to a date when no step leaves the supported years, not even one that a later
step would make good. -/
theorem applyOffsets_eq_some_iff {base date : Date} {terms : Triple Term} :
    applyOffsets base terms = some date ↔
      (dayAfterYears base.toDay terms).Supported ∧ (dayAfterMonths base.toDay terms).Supported ∧
        date.toDay = dayAfterDays base.toDay terms := by
  simp only [applyOffsets, stepMonths?_eq, toInt_monthsOfYears, Int32.toInt_toInt64,
    Date.addMonths?_eq, Day.addMonths_twelve_mul, Date.addDays?_eq, Option.bind_eq_bind,
    Option.bind_eq_some_iff, Date.ofDay?_eq_some_iff]
  constructor
  · intro h
    obtain ⟨first, years, second, months, days⟩ := h
    rw [years] at months
    rw [months] at days
    exact ⟨Date.exists_toDay_eq_iff.1 ⟨first, years⟩, Date.exists_toDay_eq_iff.1 ⟨second, months⟩,
      days⟩
  · intro h
    obtain ⟨years, months, days⟩ := h
    obtain ⟨first, hf⟩ := Date.exists_toDay_eq_iff.2 years
    obtain ⟨second, hs⟩ := Date.exists_toDay_eq_iff.2 months
    exact ⟨first, hf, second, by rw [hf]; exact hs, by rw [hs]; exact days⟩

theorem applyOffsets_eq_none_iff {base : Date} {terms : Triple Term} :
    applyOffsets base terms = none ↔
      ¬ ((dayAfterYears base.toDay terms).Supported ∧ (dayAfterMonths base.toDay terms).Supported ∧
        (dayAfterDays base.toDay terms).Supported) := by
  rw [Option.eq_none_iff_forall_ne_some]
  simp only [ne_eq, applyOffsets_eq_some_iff]
  constructor
  · intro none h
    obtain ⟨years, months, days⟩ := h
    obtain ⟨date, h⟩ := Date.exists_toDay_eq_iff.2 days
    exact none date ⟨years, months, h⟩
  · intro beyond date h
    obtain ⟨years, months, h⟩ := h
    exact beyond ⟨years, months, Date.exists_toDay_eq_iff.1 ⟨date, h⟩⟩

/-! ### Composition -/

theorem baseDate_eq_ok_iff {terms : Triple Term} {base : Date} :
    baseDate terms = .ok base ↔ base.year = terms.year.base.toInt ∧
      base.month = terms.month.base.toInt ∧ base.day = terms.day.base.toInt := by
  rw [baseDate, dateOfBases?_eq, ← Date.ofNumbers?_eq_some_iff]
  split
  · next date h => rw [h, Except.ok.injEq, Option.some.injEq]
  · next h => simp [h]

theorem baseDate_of_not_isDate {terms : Triple Term}
    (h : ¬ IsDate terms.year.base.toInt terms.month.base.toInt terms.day.base.toInt) :
    baseDate terms =
      .error (.noSuchDate terms.year.base.toInt terms.month.base.toInt terms.day.base.toInt) := by
  rw [baseDate, dateOfBases?_eq, Date.ofNumbers?_eq_none_iff.2 h]

/-- From a base date on, the offsets decide. -/
theorem compose_of_baseDate {terms : Triple Term} {base : Date} (h : baseDate terms = .ok base) :
    compose terms = match applyOffsets base terms with
      | some date => .ok date
      | none => .error .beyondCalendar := by
  rw [compose_eq, h]
  rfl

/-- Without offsets of years and months there is one step, by days. -/
theorem compose_of_day {terms : Triple Term} {base : Date} (h : baseDate terms = .ok base)
    (years : terms.year.offset.toInt = 0) (months : terms.month.offset.toInt = 0) :
    compose terms = match base.addDays? terms.day.offset.toInt with
      | some date => .ok date
      | none => .error .beyondCalendar := by
  have steps : applyOffsets base terms = base.addDays? terms.day.offset.toInt := by
    simp only [applyOffsets, stepMonths?_eq, toInt_monthsOfYears, Int32.toInt_toInt64, years, months,
      Int.mul_zero, Date.addMonths?_zero, Option.bind_eq_bind, Option.bind_some]
  rw [compose_of_baseDate h, steps]

/-- **Composition is exact.** The product that turns years into months does not wrap. The bases
are refused exactly when they are no date of the supported years, whatever the offsets are. If they
are one, the days after each of the three steps, in years without bounds, decide: composition goes
beyond the calendar exactly when one of them does, and otherwise ends on the last of them. -/
theorem compose_exact (terms : Triple Term) :
    (monthsOfYears terms.year.offset).toInt = 12 * terms.year.offset.toInt ∧
    (compose terms = .error
        (.noSuchDate terms.year.base.toInt terms.month.base.toInt terms.day.base.toInt) ↔
      ¬ IsDate terms.year.base.toInt terms.month.base.toInt terms.day.base.toInt) ∧
    ∀ isDate : IsDate terms.year.base.toInt terms.month.base.toInt terms.day.base.toInt,
      let base := (Date.mk _ _ _ isDate).toDay
      (compose terms = .error .beyondCalendar ↔
        ¬ ((dayAfterYears base terms).Supported ∧ (dayAfterMonths base terms).Supported ∧
          (dayAfterDays base terms).Supported)) ∧
      ∀ date, compose terms = .ok date ↔
        (dayAfterYears base terms).Supported ∧ (dayAfterMonths base terms).Supported ∧
          date.toDay = dayAfterDays base terms := by
  have found (isDate : IsDate terms.year.base.toInt terms.month.base.toInt
      terms.day.base.toInt) : baseDate terms = .ok (Date.mk _ _ _ isDate) :=
    baseDate_eq_ok_iff.2 ⟨rfl, rfl, rfl⟩
  refine ⟨toInt_monthsOfYears _, ⟨fun h isDate => ?_, fun h => ?_⟩, fun isDate => ⟨?_, fun date => ?_⟩⟩
  · rw [compose_of_baseDate (found isDate)] at h
    split at h
    · nomatch h
    · nomatch h
  · rw [compose_eq, baseDate_of_not_isDate h]
    rfl
  · rw [compose_of_baseDate (found isDate), ← applyOffsets_eq_none_iff]
    split
    · next date h => simp [h]
    · next h => simp [h]
  · rw [compose_of_baseDate (found isDate), ← applyOffsets_eq_some_iff]
    split
    · next date h => simp [h]
    · next h => simp [h]

/-- A step of a month beyond the last day of the calendar is not made good by a step of a day back. -/
theorem compose_last_day :
    IsDate 262142 12 31 ∧
      compose ⟨⟨.year, 262142, 0⟩, ⟨.month, 12, 1⟩, ⟨.day, 31, -1⟩⟩ = .error .beyondCalendar := by
  have exact := (compose_exact ⟨⟨.year, 262142, 0⟩, ⟨.month, 12, 1⟩, ⟨.day, 31, -1⟩⟩).2.2
    (show IsDate 262142 12 31 by decide)
  refine ⟨by decide, exact.1.2 ?_⟩
  intro h
  obtain ⟨-, months, -⟩ := h
  exact absurd months.2 (by decide)

end Almanac.Template
