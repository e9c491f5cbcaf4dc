import Almanac.Calendar.Step
import Almanac.Template.Step

/-! From three terms to a date.

The three bases have to form a date by themselves. The offsets are applied to it one after the
other, years first, then months, then days, and each step starts from the date that the step
before it reached: a day clipped by the step by years stays clipped for the step by months. -/
namespace Almanac.Template

/-! ### Counts

Terms are signed, but a month, a day and a number of months to step by are counts: they have no
sign. Years are turned into months in 64 bits, and the count of them has to fit 32 bits again. -/

/-- A number as a count, when it has no sign to lose. -/
def count? (n : Int32) : Option UInt32 :=
  if n < 0 then none else some n.toUInt32

/-- How far a number is from 0, in either direction. -/
def distance (n : Int64) : UInt64 :=
  n.abs.toUInt64

/-- A count in 32 bits, when it fits. -/
def narrow? (n : UInt64) : Option UInt32 :=
  if n ≤ 4294967295 then some n.toUInt32 else none

/-! ### Composition -/

/-- The date that the bases form. -/
def dateOfBases? (terms : Triple Term) : Option Date := do
  let month ← count? terms.month.base
  let day ← count? terms.day.base
  Date.ofNumbers? terms.year.base.toInt month.toNat day.toNat

/-- The date that the bases form, or the numbers that form none. -/
def baseDate (terms : Triple Term) : Except Fault Date :=
  match dateOfBases? terms with
  | some date => .ok date
  | none =>
    .error (.noSuchDate terms.year.base.toInt terms.month.base.toInt terms.day.base.toInt)

/-- The date a number of months away: the step is a count, and the sign says which way it goes. -/
def stepMonths? (date : Date) (months : Int64) : Option Date := do
  let count ← narrow? (distance months)
  date.addMonths? (if months < 0 then -count.toNat else count.toNat)

/-- The number of months that an offset by years amounts to. -/
def monthsOfYears (years : Int32) : Int64 :=
  years.toInt64 * 12

/-- The date that the offsets lead to. -/
def applyOffsets (base : Date) (terms : Triple Term) : Option Date := do
  let date ← stepMonths? base (monthsOfYears terms.year.offset)
  let date ← stepMonths? date terms.month.offset.toInt64
  date.addDays? terms.day.offset.toInt

/-- The date that three terms stand for. -/
def Trace.compose (terms : Triple Term) : Traced Step Fault Date := do
  let base ← .silent (baseDate terms)
  .say (.composed base)
  match applyOffsets base terms with
  | some date => do
    .say (.moved date)
    pure date
  | none => .silent (.error .beyondCalendar)

def compose (terms : Triple Term) : Except Fault Date :=
  (Trace.compose terms).result

theorem compose_eq (terms : Triple Term) : compose terms =
    baseDate terms >>= fun base =>
      match applyOffsets base terms with
      | some date => .ok date
      | none => .error .beyondCalendar := by
  rw [compose, Trace.compose, Traced.result_bind]
  refine congrArg (baseDate terms >>= ·) (funext fun base => ?_)
  rw [Traced.result_bind]
  cases applyOffsets base terms with
  | none => rfl
  | some date => rfl

theorem compose_eq_ok_iff {terms : Triple Term} {date : Date} : compose terms = .ok date ↔
    ∃ base, baseDate terms = .ok base ∧ applyOffsets base terms = some date := by
  rw [compose_eq, bind_eq_ok_iff]
  refine exists_congr fun base => and_congr_right fun _ => ?_
  cases applyOffsets base terms with
  | none => simp
  | some date => simp

end Almanac.Template
