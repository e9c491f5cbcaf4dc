import Almanac.Calendar.DateText
import Almanac.Proofs.Text.Ascii
import Almanac.Proofs.Text.Numeral

/-! The text of a date, read back.

A number is read up to its greatest width or to the first character that is no digit, and the writer
sees to it that one of the two is where the number ends: months and days fill their width, a year
without a sign does too, and a `-` follows a year with a sign. So the reader finds in the text of a
date this date (`ofText?_text`), and no two dates have one text (`text_injective`). -/
namespace Almanac.Date

/-- A digit, a separator or a sign: nothing else stands in the text of a date. -/
theorem mem_chars {d : Date} {c : Char} (h : c ∈ d.chars) :
    c.isDigit = true ∨ c = '-' ∨ c = '+' := by
  have numeral {width n : Nat} (h : c ∈ Text.padded width n) :
      c.isDigit = true ∨ c = '-' ∨ c = '+' := .inl (Text.isDigit_of_mem_padded h)
  have year (h : c ∈ yearText d.year) : c.isDigit = true ∨ c = '-' ∨ c = '+' := by
    unfold yearText at h
    split at h
    · exact numeral h
    · obtain rfl | h := List.mem_cons.1 h
      · split
        · exact .inr (.inl rfl)
        · exact .inr (.inr rfl)
      · exact numeral h
  simp only [chars, List.mem_append, List.mem_cons] at h
  obtain (h | h | h) | h | h := h
  · exact year h
  · exact .inr (.inl h)
  · exact numeral h
  · exact .inr (.inl h)
  · exact numeral h

theorem not_mem_chars {d : Date} {c : Char} (digit : c.isDigit = false) (dash : c ≠ '-')
    (plus : c ≠ '+') : c ∉ d.chars := fun h =>
  match mem_chars h with
  | .inl h => Bool.noConfusion (digit.symm.trans h)
  | .inr (.inl h) => dash h
  | .inr (.inr h) => plus h

/-! ### Numbers -/

/-- A number ends at its greatest width, or at a character that is no digit. -/
theorem digitRun_append {most : Nat} {digits rest : List Char}
    (h : ∀ c ∈ digits, c.isDigit = true) (fits : digits.length ≤ most)
    (ends : digits.length = most ∨ ∃ c cs, rest = c :: cs ∧ c.isDigit = false) :
    digitRun most (digits ++ rest) = (digits, rest) := by
  have run : ((digits ++ rest).take most).takeWhile Char.isDigit = digits := by
    rw [List.take_append, List.take_of_length_le fits, List.takeWhile_append_of_pos h]
    obtain full | ⟨c, cs, rfl, other⟩ := ends
    · rw [full, Nat.sub_self, List.take_zero, List.takeWhile_nil, List.append_nil]
    · cases most - digits.length with
      | zero => simp
      | succ n => rw [List.take_succ_cons, List.takeWhile_cons_of_neg (by simp [other]),
          List.append_nil]
  unfold digitRun
  simp only [run, List.drop_left]

theorem readNumber_padded {most width n : Nat} {rest : List Char}
    (fits : (Text.padded width n).length ≤ most)
    (ends : (Text.padded width n).length = most ∨ ∃ c cs, rest = c :: cs ∧ c.isDigit = false) :
    readNumber most (Text.padded width n ++ rest) = some ((n : Int), rest) := by
  have run := digitRun_append (fun _ => Text.isDigit_of_mem_padded) fits ends
  simp only [readNumber, run, Text.number?_padded]
  rfl

/-- A number that fills its width is read whatever follows it. -/
theorem readNumber_of_lt {width n : Nat} (positive : 0 < width) (h : n < 10 ^ width)
    (rest : List Char) : readNumber width (Text.padded width n ++ rest) = some ((n : Int), rest) :=
  have full := Text.length_padded positive h
  readNumber_padded (Nat.le_of_eq full) (.inl full)

theorem readYear_yearText (year : Int) (rest : List Char) :
    readYear (yearText year ++ '-' :: rest) = some (year, '-' :: rest) := by
  let digits := Text.padded 4 year.natAbs
  have signed : readNumber (digits ++ '-' :: rest).length (digits ++ '-' :: rest) =
      some ((year.natAbs : Int), '-' :: rest) :=
    readNumber_padded (by simp [digits]) (.inr ⟨'-', rest, rfl, rfl⟩)
  unfold yearText
  split
  · next four =>
    have read : readNumber 4 (Text.padded 4 year.natAbs ++ '-' :: rest) =
        some ((year.natAbs : Int), '-' :: rest) := readNumber_of_lt (by decide) (by omega) _
    rw [Int.natAbs_of_nonneg four.1] at read
    -- The year begins with a digit, and so with no sign.
    obtain ⟨c, cs, digits⟩ := List.exists_cons_of_ne_nil (Text.padded_ne_nil 4 year.natAbs)
    have digit : c.isDigit = true := Text.isDigit_of_mem_padded (by rw [digits]; simp)
    rw [digits, List.cons_append] at read ⊢
    unfold readYear
    split
    · next same =>
      obtain ⟨rfl, -⟩ := List.cons.inj same
      exact Bool.noConfusion digit
    · next same =>
      obtain ⟨rfl, -⟩ := List.cons.inj same
      exact Bool.noConfusion digit
    · exact read
  · next far =>
    split
    · next negative =>
      show (readNumber (digits ++ '-' :: rest).length (digits ++ '-' :: rest)).map _ = _
      rw [signed, Option.map_some, Int.ofNat_natAbs_of_nonpos (Int.le_of_lt negative)]
      simp
    · next positive =>
      show readNumber (digits ++ '-' :: rest).length (digits ++ '-' :: rest) = _
      rw [signed, Int.natAbs_of_nonneg (Int.not_lt.1 positive)]

/-! ### Dates -/

theorem isBlank_of_mem_chars {d : Date} {c : Char} (h : c ∈ d.chars) : Text.isBlank c = false := by
  rcases mem_chars h with digit | rfl | rfl
  · exact Text.isBlank_of_isDigit digit
  · rfl
  · rfl

theorem trim_chars (d : Date) : Text.trim d.chars = d.chars := by
  apply Text.trim_eq_self
  · cases front : d.chars.head? with
    | none => rfl
    | some c => simp [isBlank_of_mem_chars (List.mem_of_head? front)]
  · cases back : d.chars.getLast? with
    | none => rfl
    | some c => simp [isBlank_of_mem_chars (List.mem_of_getLast? back)]

/-- A month or a day after its `-`. -/
theorem skipDash_padded (n : Nat) (rest : List Char) :
    skipDash ('-' :: (Text.padded 2 n ++ rest)) = some (Text.padded 2 n ++ rest) := by
  obtain ⟨c, cs, digits⟩ := List.exists_cons_of_ne_nil (Text.padded_ne_nil 2 n)
  have digit : c.isDigit = true := Text.isDigit_of_mem_padded (by rw [digits]; simp)
  have visible := Text.isBlank_of_isDigit digit
  rw [skipDash, Text.trimStart, digits, List.cons_append,
    List.dropWhile_cons_of_neg (by simp [visible])]

theorem ofChars?_chars (d : Date) : ofChars? d.chars = some d := by
  obtain ⟨-, -, month, month', day, day'⟩ := d.isDate
  have short := monthLength_le d.year d.month
  have readMonth (rest : List Char) : readNumber 2 (Text.padded 2 d.month.natAbs ++ rest) =
      some (d.month, rest) := by
    rw [readNumber_of_lt (by decide) (by omega), Int.natAbs_of_nonneg (by omega)]
  have readDay : readNumber 2 (Text.padded 2 d.day.natAbs ++ []) = some (d.day, []) := by
    rw [readNumber_of_lt (by decide) (by omega), Int.natAbs_of_nonneg (by omega)]
  have parts : d.chars = yearText d.year ++ '-' :: (Text.padded 2 d.month.natAbs ++
      '-' :: (Text.padded 2 d.day.natAbs ++ [])) := by
    simp [chars]
  rw [ofChars?, trim_chars, parts, readYear_yearText]
  simp only [Option.bind_eq_bind, Option.bind_some, skipDash_padded, readMonth, readDay]
  exact ofNumbers?_self d

/-- **A date is read back from its text.** -/
theorem ofText?_text (d : Date) : ofText? d.text = some d := by
  rw [ofText?, text, String.toList_ofList, ofChars?_chars]

/-- Distinct dates have distinct texts. -/
theorem text_injective : Function.Injective text := by
  intro a b same
  have read := congrArg ofText? same
  rw [ofText?_text, ofText?_text] at read
  exact Option.some.inj read

end Almanac.Date
