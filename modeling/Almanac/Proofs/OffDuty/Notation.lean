import Almanac.Proofs.OffDuty.Order
import Almanac.Proofs.Template.FieldText
import Almanac.Proofs.Text.Numeral
import Mathlib.Data.List.Basic

/-! How an interval of hours is written.

An interval is two hours with a `-` between them, the first `-` of the text: an hour is one or two
digits, and blanks may stand around it. `ofText?_eq_some_iff` says that exactly these texts are read,
as the interval between the two numbers. An interval within a day is displayed in this form
(`denotes_text`), and its text tells it (`text_injective`). -/
namespace Almanac.HourInterval
open Template (Numeral numeralValue number?_eq_some_iff numeral_padded trim_numeral)

/-- One or two digits with any blanks around them, and the number that they denote. -/
def IsHour (cs : List Char) (hour : Nat) : Prop :=
  Numeral (Text.trim cs) ∧ (Text.trim cs).length ≤ 2 ∧ hour = numeralValue (Text.trim cs)

/-- What a text denotes when it is cut at its first `-`. -/
def Denotes (s : String) (i : HourInterval) : Prop :=
  ∃ front back, s.toList = front ++ '-' :: back ∧ '-' ∉ front ∧
    IsHour front i.start ∧ IsHour back i.stop ∧ i.start < i.stop ∧ i.stop ≤ 24

/-! ### Reading -/

theorem hour?_eq_some_iff {cs : List Char} {hour : Nat} :
    hour? cs = some hour ↔ IsHour cs hour := by
  unfold hour? IsHour
  dsimp only
  split
  · next short => rw [number?_eq_some_iff, and_iff_right short]
  · next long => simp [long]

/-- Both sides of the first `-` are read, and then compared. -/
theorem ofText?_of_cut {s : String} {front back : List Char} (cut : s.toList = front ++ '-' :: back)
    (first : '-' ∉ front) : ofText? s = (hour? front).bind fun start =>
      (hour? back).bind fun stop => if start < stop ∧ stop ≤ 24 then some ⟨start, stop⟩ else none := by
  have before : ∀ c ∈ front, (c != '-') = true := fun c member =>
    bne_iff_ne.2 fun same => first (same ▸ member)
  have take : s.toList.takeWhile (· != '-') = front := by
    rw [cut, List.takeWhile_append_of_pos before, List.takeWhile_cons_of_neg (by decide),
      List.append_nil]
  have drop : s.toList.dropWhile (· != '-') = '-' :: back := by
    rw [cut, List.dropWhile_append_of_pos before, List.dropWhile_cons_of_neg (by decide)]
  rw [ofText?, drop, take]
  rfl

theorem ofText?_of_uncut {s : String} (uncut : '-' ∉ s.toList) : ofText? s = none := by
  have none : s.toList.dropWhile (· != '-') = [] :=
    List.dropWhile_eq_nil_iff.2 fun c member => bne_iff_ne.2 fun same => uncut (same ▸ member)
  rw [ofText?, none]

/-- A text is read as the interval that it denotes. -/
theorem ofText?_eq_some_iff {s : String} {i : HourInterval} :
    ofText? s = some i ↔ Denotes s i := by
  constructor
  · intro h
    by_cases dash : '-' ∈ s.toList
    · obtain ⟨front, back, cut, first⟩ := List.eq_append_cons_of_mem dash
      rw [ofText?_of_cut cut first] at h
      obtain ⟨start, front_hour, h⟩ := Option.bind_eq_some_iff.1 h
      obtain ⟨stop, back_hour, h⟩ := Option.bind_eq_some_iff.1 h
      obtain ⟨bounds, h⟩ := Option.ite_none_right_eq_some.1 h
      obtain rfl := Option.some.inj h
      exact ⟨front, back, cut, first, hour?_eq_some_iff.1 front_hour,
        hour?_eq_some_iff.1 back_hour, bounds⟩
    · rw [ofText?_of_uncut dash] at h
      cases h
  · rintro ⟨front, back, cut, first, front_hour, back_hour, bounds⟩
    rw [ofText?_of_cut cut first, hour?_eq_some_iff.2 front_hour, hour?_eq_some_iff.2 back_hour]
    exact if_pos bounds

/-- A text denotes one interval at most. -/
theorem Denotes.unique {s : String} {i j : HourInterval} (h : Denotes s i) (h' : Denotes s j) :
    i = j :=
  Option.some.inj ((ofText?_eq_some_iff.2 h).symm.trans (ofText?_eq_some_iff.2 h'))

theorem ofText?_eq_none_iff {s : String} : ofText? s = none ↔ ¬ ∃ i, Denotes s i := by
  rw [Option.eq_none_iff_forall_ne_some]
  simp only [ne_eq, ofText?_eq_some_iff, not_exists]

/-! ### Writing -/

theorem not_mem_padded {c : Char} (h : c.isDigit = false) (n : Nat) : c ∉ Text.padded 2 n :=
  fun member => by cases h.symm.trans (Text.isDigit_of_mem_padded member)

theorem isHour_padded {n : Nat} (h : n < 100) : IsHour (Text.padded 2 n) n := by
  have length : (Text.padded 2 n).length = 2 := Text.length_padded (by decide) h
  rw [IsHour, trim_numeral (numeral_padded 2 n)]
  exact ⟨numeral_padded 2 n, Nat.le_of_eq length, (Text.ofDigitChars_padded 2 n).symm⟩

/-- An interval within a day is what its own text denotes. -/
theorem denotes_text {i : HourInterval} (proper : i.start < i.stop) (within : i.stop ≤ 24) :
    Denotes i.text i :=
  ⟨Text.padded 2 i.start, Text.padded 2 i.stop, String.toList_ofList, not_mem_padded (by decide) _,
    isHour_padded (by omega), isHour_padded (by omega), proper, within⟩

theorem padded_injective {m n : Nat} (h : Text.padded 2 m = Text.padded 2 n) : m = n := by
  rw [← Text.ofDigitChars_padded 2 m, h, Text.ofDigitChars_padded]

theorem text_injective {i j : HourInterval} (h : i.text = j.text) : i = j := by
  have same : Text.padded 2 i.start ++ '-' :: Text.padded 2 i.stop =
      Text.padded 2 j.start ++ '-' :: Text.padded 2 j.stop := String.ofList_injective h
  have dash (n : Nat) : '-' ∉ Text.padded 2 n := not_mem_padded (by decide) n
  obtain ⟨start, -, stop⟩ := (List.append_cons_inj_of_notMem (dash _) (dash _)).1 same
  obtain ⟨start₁, stop₁⟩ := i
  rw [mk.injEq]
  exact ⟨padded_injective start, padded_injective stop⟩

end Almanac.HourInterval
