import Almanac.Proofs.Calendar.Order
import Almanac.Proofs.Template.Composition
import Almanac.Proofs.Template.Joined

/-! The offset of days.

`YEAR-MONTH-<DAY+n>` names the date n days after the anchor, and `YEAR-MONTH-<DAY-n>` the one n days
before it (`resolve_dayOffset`). Days here are leaves of the calendar, turned one by one. Nothing is
clipped on the way, so each of these templates is a translation of the whole calendar, and between
two dates there is exactly one of them (`dayOffset_translation`). -/
namespace Almanac.Template

/-- The template that goes a number of days from the anchor. -/
def dayOffset (n : Int) : String :=
  "YEAR-MONTH-<DAY" ++ (if n < 0 then "-" else "+") ++ toString n.natAbs ++ ">"

/-! ### Reading it -/

/-- The sign of a number of days. -/
def signOf (n : Int) : Char :=
  if n < 0 then '-' else '+'

/-- What the day of the template says. -/
def dayOffsetText (n : Int) : List Char :=
  Field.day.keyword.toList ++ signOf n :: Nat.toDigits 10 n.natAbs

theorem isOperator_signOf (n : Int) : isOperator (signOf n) = true := by
  unfold signOf
  split <;> rfl

theorem dayOffset_eq (n : Int) : dayOffset n = String.ofList (['-'].intercalate
    [Field.year.keyword.toList, Field.month.keyword.toList,
      '<' :: dayOffsetText n ++ ['>']]) := by
  -- The parts are named first, so that the texts in them are not compared with one another.
  have chars {sign digits : String} {s d : List Char} (hs : sign.toList = s)
      (hd : digits.toList = d) : ("YEAR-MONTH-<DAY" ++ sign ++ digits ++ ">").toList =
      Field.year.keyword.toList ++ '-' :: (Field.month.keyword.toList ++ '-' ::
        '<' :: (Field.day.keyword.toList ++ (s ++ (d ++ ['>'])))) := by
    simp [String.toList_append, Field.keyword, hs, hd]
  have sign : (if n < 0 then "-" else "+" : String).toList = [signOf n] := by
    unfold signOf
    split <;> rfl
  have digits : (toString n.natAbs).toList = Nat.toDigits 10 n.natAbs := by
    rw [Nat.toString_eq_ofList_toDigits, String.toList_ofList]
  rw [← String.toList_inj, String.toList_ofList, List.intercalate_cons_cons,
    List.intercalate_cons_cons, List.intercalate_singleton]
  refine (chars sign digits).trans ?_
  simp [dayOffsetText]

theorem numeral_toDigits (n : Nat) : Numeral (Nat.toDigits 10 n) :=
  ⟨Nat.toDigits_ne_nil, fun _ => Nat.isDigit_of_mem_toDigits (by decide) (by decide)⟩

theorem plain_dayOffsetText (n : Int) : Plain (dayOffsetText n) := by
  simp only [dayOffsetText, Plain, List.mem_append, List.mem_cons]
  intro c hc
  rcases hc with letter | rfl | digit
  · exact plain_keyword .day c letter
  · rcases eq_of_isOperator (isOperator_signOf n) with plus | minus
    · rw [plus]; rfl
    · rw [minus]; rfl
  · exact plain_numeral (numeral_toDigits _) c digit

theorem trim_dayOffsetText (n : Int) : Text.trim (dayOffsetText n) = dayOffsetText n := by
  show Text.trim ('D' :: ['A', 'Y', signOf n] ++ Nat.toDigits 10 n.natAbs) = _
  rw [trim_cons_numeral rfl (numeral_toDigits n.natAbs)]
  rfl

theorem split_dayOffset (n : Int) : split (dayOffset n) =
    .ok ⟨String.ofList Field.year.keyword.toList, String.ofList Field.month.keyword.toList,
      String.ofList (dayOffsetText n)⟩ := by
  let raw : Triple (List Char) :=
    ⟨Field.year.keyword.toList, Field.month.keyword.toList, '<' :: dayOffsetText n ++ ['>']⟩
  have parts : ∀ piece ∈ raw.toList, IsPiece piece := by
    simp only [raw, Triple.toList, List.forall_mem_cons]
    exact ⟨isPiece_keyword .year, isPiece_keyword .month,
      isPiece_bracketed (plain_dayOffsetText n), List.forall_mem_nil _⟩
  have texts : raw.map textOf =
      ⟨Field.year.keyword.toList, Field.month.keyword.toList, dayOffsetText n⟩ :=
    Triple.ext_get fun field => by
      cases field with
      | year => exact textOf_keyword .year
      | month => exact textOf_keyword .month
      | day => exact (textOf_bracketed (plain_dayOffsetText n)).trans (trim_dayOffsetText n)
  rw [dayOffset_eq]
  refine (split_joined parts rfl).trans ?_
  rw [texts]
  rfl

theorem isKeyword_keyword (field : Field) : IsKeyword field field.keyword.toList := by
  show _ = _
  cases field <;> decide

theorem toInt_ofInt_of_small {n : Int} (h : n.natAbs ≤ largestNumber) :
    (Int32.ofInt n).toInt = n := by
  unfold largestNumber at h
  exact Int32.toInt_ofInt_of_le (by omega) (by omega)

/-- The number of days comes back from its sign and its digits. -/
theorem says_dayOffsetText {n : Int} (h : n.natAbs ≤ largestNumber) (anchor : Date) :
    Says .day anchor (dayOffsetText n) ⟨.day, .ofInt (anchor.valueOf .day), .ofInt n⟩ := by
  have value : numeralValue (Nat.toDigits 10 n.natAbs) = n.natAbs := Nat.ofDigitChars_ten_toDigits
  have signed : (if signOf n = '-' then -(n.natAbs : Int) else n.natAbs) = n := by
    unfold signOf
    split
    · rw [if_pos rfl]
      omega
    · rw [if_neg (by decide)]
      omega
  have offset : Says .day anchor
      (Field.day.keyword.toList ++ [] ++ signOf n :: [] ++ Nat.toDigits 10 n.natAbs)
      ⟨.day, .ofInt (anchor.valueOf .day), .ofInt n⟩ :=
    .offset (isKeyword_keyword .day) nofun (isOperator_signOf n) nofun (numeral_toDigits n.natAbs)
      (by rw [value]; exact h)
      ⟨rfl, toInt_valueOf anchor .day, by rw [value, signed]; exact toInt_ofInt_of_small h⟩
  simpa [dayOffsetText] using offset

theorem readTerms_dayOffset {n : Int} (h : n.natAbs ≤ largestNumber) (anchor : Date) :
    readTerms (dayOffset n) anchor =
      .ok ⟨⟨.year, .ofInt (anchor.valueOf .year), 0⟩, ⟨.month, .ofInt (anchor.valueOf .month), 0⟩,
        ⟨.day, .ofInt (anchor.valueOf .day), .ofInt n⟩⟩ := by
  have keyword (field : Field) : Term.ofText field anchor (String.ofList field.keyword.toList) =
      .ok ⟨field, .ofInt (anchor.valueOf field), 0⟩ :=
    (ofText_eq_ok_iff (trim_keyword field)).2
      (.keyword (isKeyword_keyword field) ⟨rfl, toInt_valueOf anchor field, rfl⟩)
  rw [readTerms_eq]
  refine bind_eq_ok_iff.2 ⟨_, split_dayOffset n, terms_eq_ok_iff.2 fun field => ?_⟩
  cases field with
  | year => exact keyword .year
  | month => exact keyword .month
  | day => exact (ofText_eq_ok_iff (trim_dayOffsetText n)).2 (says_dayOffsetText h anchor)

/-! ### The translation -/

/-- The template names the day so many leaves away, as far as the calendar goes. -/
theorem resolve_dayOffset {n : Int} (h : n.natAbs ≤ largestNumber) (anchor : Date) :
    resolve (dayOffset n) anchor = match Date.ofDay? (anchor.toDay.addDays n) with
      | some date => .ok date
      | none => .error ⟨dayOffset n, .beyondCalendar⟩ := by
  have base : baseDate ⟨⟨.year, .ofInt (anchor.valueOf .year), 0⟩,
      ⟨.month, .ofInt (anchor.valueOf .month), 0⟩,
      ⟨.day, .ofInt (anchor.valueOf .day), .ofInt n⟩⟩ = .ok anchor :=
    baseDate_eq_ok_iff.2 ⟨(toInt_valueOf anchor .year).symm, (toInt_valueOf anchor .month).symm,
      (toInt_valueOf anchor .day).symm⟩
  have composed := compose_of_day base rfl rfl
  rw [toInt_ofInt_of_small h, Date.addDays?_eq] at composed
  rw [resolve_eq, readTerms_dayOffset h]
  show (compose _).mapError _ = _
  rw [composed]
  cases Date.ofDay? (anchor.toDay.addDays n) with
  | none => rfl
  | some date => rfl

theorem resolve_dayOffset_eq_ok_iff {n : Int} (h : n.natAbs ≤ largestNumber) {a b : Date} :
    resolve (dayOffset n) a = .ok b ↔ a.toDay.addDays n = b.toDay := by
  rw [resolve_dayOffset h, eq_comm (a := a.toDay.addDays n), ← Date.ofDay?_eq_some_iff]
  cases Date.ofDay? (a.toDay.addDays n) with
  | none => simp
  | some date => simp

theorem resolve_dayOffset_eq_error_iff {n : Int} (h : n.natAbs ≤ largestNumber) {a : Date}
    {rejection : Rejection} : resolve (dayOffset n) a = .error rejection ↔
      rejection = ⟨dayOffset n, .beyondCalendar⟩ ∧ ¬ (a.toDay.addDays n).Supported := by
  rw [resolve_dayOffset h, ← Date.exists_toDay_eq_iff, eq_comm (a := rejection)]
  simp only [← Date.ofDay?_eq_some_iff]
  cases Date.ofDay? (a.toDay.addDays n) with
  | none => simp
  | some date => simp

/-- Any two dates are so near that an offset can tell their distance. -/
theorem natAbs_dayNumber_sub_le (a b : Date) :
    (b.dayNumber - a.dayNumber).natAbs ≤ largestNumber := by
  have := Date.dayNumber_sub_lt a b
  have := Date.dayNumber_sub_lt b a
  unfold largestNumber
  omega

/-- **Translation by days.** The template with the offset n names the date n days from the anchor,
forwards or backwards. So between two dates there is exactly one such template, none moves a date by
0, the offset -n goes back, and offsets one after the other add up. The only fault of these templates
is to leave the calendar, and they have it exactly when the day is no supported one. -/
theorem dayOffset_translation :
    (∀ (n : Int) (a b : Date), n.natAbs ≤ largestNumber →
      (resolve (dayOffset n) a = .ok b ↔ a.toDay.addDays n = b.toDay)) ∧
    (∀ a b : Date, ∃! n : Int, n.natAbs ≤ largestNumber ∧ resolve (dayOffset n) a = .ok b) ∧
    (∀ a : Date, resolve (dayOffset 0) a = .ok a) ∧
    (∀ (n : Int) (a b : Date), n.natAbs ≤ largestNumber →
      (resolve (dayOffset n) a = .ok b ↔ resolve (dayOffset (-n)) b = .ok a)) ∧
    (∀ (n m : Int) (a b c : Date), n.natAbs ≤ largestNumber → m.natAbs ≤ largestNumber →
      (n + m).natAbs ≤ largestNumber → resolve (dayOffset n) a = .ok b →
        resolve (dayOffset m) b = .ok c → resolve (dayOffset (n + m)) a = .ok c) ∧
    ∀ (n : Int) (a : Date) (rejection : Rejection), n.natAbs ≤ largestNumber →
      (resolve (dayOffset n) a = .error rejection ↔
        rejection = ⟨dayOffset n, .beyondCalendar⟩ ∧ ¬ (a.toDay.addDays n).Supported) := by
  refine ⟨fun n a b h => resolve_dayOffset_eq_ok_iff h, fun a b => ?_, fun a => ?_,
    fun n a b h => ?_, fun n m a b c hn hm h hb hc => ?_,
    fun n a rejection h => resolve_dayOffset_eq_error_iff h⟩
  · refine ⟨b.dayNumber - a.dayNumber, ⟨natAbs_dayNumber_sub_le a b, ?_⟩, fun n h => ?_⟩
    · rw [resolve_dayOffset_eq_ok_iff (natAbs_dayNumber_sub_le a b), Day.addDays_eq_iff,
        Day.number_toDay, Day.number_toDay]
      omega
    · obtain ⟨small, named⟩ := h
      rw [resolve_dayOffset_eq_ok_iff small, Day.addDays_eq_iff, Day.number_toDay,
        Day.number_toDay] at named
      omega
  · rw [resolve_dayOffset_eq_ok_iff (Nat.zero_le _), Day.addDays_zero]
  · rw [resolve_dayOffset_eq_ok_iff h, resolve_dayOffset_eq_ok_iff (by rwa [Int.natAbs_neg]),
      Day.addDays_eq_iff, Day.addDays_eq_iff]
    omega
  · rw [resolve_dayOffset_eq_ok_iff hn] at hb
    rw [resolve_dayOffset_eq_ok_iff hm, ← hb, Day.addDays_addDays] at hc
    exact (resolve_dayOffset_eq_ok_iff h).2 hc

/-- A leap year forwards and backwards, a day less than it, and a day too many. -/
theorem dayOffset_leap_year :
    dayOffset (-366) = "YEAR-MONTH-<DAY-366>" ∧
      resolve (dayOffset 366) ⟨2024, 1, 1, by decide⟩ = .ok ⟨2025, 1, 1, by decide⟩ ∧
      resolve (dayOffset (-366)) ⟨2025, 1, 1, by decide⟩ = .ok ⟨2024, 1, 1, by decide⟩ ∧
      resolve (dayOffset (366 + -1)) ⟨2024, 1, 1, by decide⟩ = .ok ⟨2024, 12, 31, by decide⟩ ∧
      resolve (dayOffset 1) ⟨262142, 12, 31, by decide⟩ =
        .error ⟨dayOffset 1, .beyondCalendar⟩ := by
  obtain ⟨-, -, -, back, add, leave⟩ := dayOffset_translation
  have year : resolve (dayOffset 366) ⟨2024, 1, 1, by decide⟩ = .ok ⟨2025, 1, 1, by decide⟩ := by
    decide +kernel
  have day : resolve (dayOffset (-1)) ⟨2025, 1, 1, by decide⟩ = .ok ⟨2024, 12, 31, by decide⟩ := by
    decide +kernel
  refine ⟨by decide, year, (back _ _ _ (by decide)).1 year,
    add _ _ _ _ _ (by decide) (by decide) (by decide) year day,
    (leave _ _ _ (by decide)).2 ⟨rfl, fun supported => ?_⟩⟩
  exact absurd supported.2 (by decide)

end Almanac.Template
