import Almanac.Calendar.Weekday
import Almanac.OffDuty.Hours
import Mathlib.Data.List.Sort

/-! The order of weekdays and of intervals of hours.

The week begins on Monday. Intervals stand by their start and then by their end, which is a linear
order: intervals in strictly ascending order are therefore all different, though they may overlap.
An interval that was read from a text holds an hour, and none past midnight (`bounds_of_ofText?`). -/
namespace Almanac

namespace Weekday

theorem place_injective : Function.Injective place := fun v _ h =>
  (List.idxOf_inj v.mem_all).1 h

instance : Std.IsLinearOrder Weekday where
  le_refl v := Nat.le_refl v.place
  le_trans _ _ _ h h' := Nat.le_trans h h'
  le_antisymm _ _ h h' := place_injective (Nat.le_antisymm h h')
  le_total v w := Nat.le_total v.place w.place

instance : Std.LawfulOrderLT Weekday where
  lt_iff v w := Nat.lt_iff_le_and_not_ge (m := v.place) (n := w.place)

theorem pairwise_all : all.Pairwise (· < ·) := by
  decide

/-- To sort days is to go through the week. -/
theorem ascending_eq_filter (days : List Weekday) : ascending days = all.filter days.contains :=
  (pairwise_ascending days).eq_of_mem_iff (pairwise_all.filter _) fun day => by
    rw [mem_ascending, List.mem_filter, and_iff_right day.mem_all, List.contains_iff_mem]

end Weekday

namespace HourInterval

theorem lt_def {a b : HourInterval} :
    a < b ↔ a.start < b.start ∨ a.start = b.start ∧ a.stop < b.stop :=
  Iff.rfl

theorem le_def {a b : HourInterval} : a ≤ b ↔ ¬ b < a :=
  Iff.rfl

instance : Std.IsLinearOrder HourInterval where
  le_refl a := by
    rw [le_def, lt_def]
    omega
  le_trans a b c h h' := by
    rw [le_def, lt_def] at h h' ⊢
    omega
  le_antisymm a b h h' := by
    obtain ⟨start, stop⟩ := a
    obtain ⟨start', stop'⟩ := b
    rw [le_def, lt_def] at h h'
    rw [mk.injEq]
    dsimp only at h h'
    omega
  le_total a b := by
    rw [le_def, le_def, lt_def, lt_def]
    omega

instance : Std.LawfulOrderLT HourInterval where
  lt_iff a b := by
    rw [le_def, le_def, lt_def, lt_def]
    omega

theorem contains_iff {i : HourInterval} {hour : Nat} :
    i.contains hour = true ↔ i.start ≤ hour ∧ hour < i.stop := by
  simp [contains]

theorem bounds_of_ofText? {s : String} {i : HourInterval} (h : ofText? s = some i) :
    i.start < i.stop ∧ i.stop ≤ 24 := by
  unfold ofText? at h
  split at h
  · cases h
  · obtain ⟨start, -, h⟩ := Option.bind_eq_some_iff.1 h
    obtain ⟨stop, -, h⟩ := Option.bind_eq_some_iff.1 h
    split at h
    · next bounds =>
      obtain rfl := Option.some.inj h
      exact bounds
    · cases h

end HourInterval

end Almanac
