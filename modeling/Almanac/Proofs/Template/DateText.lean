import Almanac.Calendar.DateText
import Almanac.Proofs.Template.Joined
import Almanac.Proofs.Template.Literals

/-! The text of a date as a template.

In the years 0 to 9999 the text of a date is three literals, and the date comes back from it, unless
the year is 0, which no field may hold. A sign in front of the year does not belong to a literal: a
plus makes the year unreadable, and a minus is one separator too many (`resolve_text`). The other way
round, a template of literals is the text of the date that it names (`literal_text_inverse`). -/
namespace Almanac.Template

/-! ### The parts of the text -/

/-- The three parts of the text of a date. -/
def textParts (d : Date) : Triple (List Char) :=
  ⟨Date.yearText d.year, Text.padded 2 d.month.natAbs, Text.padded 2 d.day.natAbs⟩

theorem text_eq_joined (d : Date) :
    d.text = String.ofList (['-'].intercalate (textParts d).toList) := by
  rw [Date.text, intercalate_toList]
  rfl

theorem plain_plus {digits : List Char} (h : Numeral digits) : Plain ('+' :: digits) :=
  List.forall_mem_cons.2 ⟨rfl, plain_numeral h⟩

theorem isPiece_plus {digits : List Char} (h : Numeral digits) : IsPiece ('+' :: digits) :=
  isPiece_plain (plain_plus h) <| List.not_mem_cons_of_ne_of_not_mem (by decide)
    fun sign => Bool.noConfusion (unsigned_numeral h '-' sign)

theorem trim_plus {digits : List Char} (h : Numeral digits) :
    Text.trim ('+' :: digits) = '+' :: digits := by
  show Text.trim ('+' :: [] ++ digits) = _
  exact trim_cons_numeral rfl h

/-- Without a minus, the parts of the text are the fields of the template. -/
theorem split_text {d : Date} (h : 0 ≤ d.year) :
    split d.text = .ok ((textParts d).map String.ofList) := by
  have year : IsPiece (Date.yearText d.year) ∧
      textOf (Date.yearText d.year) = Date.yearText d.year := by
    have numeral := numeral_padded 4 d.year.natAbs
    unfold Date.yearText
    split
    · exact ⟨isPiece_numeral numeral, textOf_numeral numeral⟩
    · rw [if_neg (Int.not_lt.2 h)]
      exact ⟨isPiece_plus numeral, (textOf_plain (plain_plus numeral)).trans (trim_plus numeral)⟩
  have pieces : ∀ piece ∈ (textParts d).toList, IsPiece piece := by
    simp only [textParts, Triple.toList, List.forall_mem_cons]
    exact ⟨year.1, isPiece_numeral (numeral_padded 2 _), isPiece_numeral (numeral_padded 2 _),
      List.forall_mem_nil _⟩
  have texts : (textParts d).map textOf = textParts d := Triple.ext_get fun field => by
    cases field with
    | year => exact year.2
    | month => exact textOf_numeral (numeral_padded 2 _)
    | day => exact textOf_numeral (numeral_padded 2 _)
  rw [text_eq_joined, split_joined pieces (all_isBracket_numeral (numeral_padded 2 _)), texts]

/-- Months and days are positive and fit their fields, so it is up to the year. -/
theorem valueOf_bounds {d : Date} {least : Int} (small : least ≤ 1)
    (h : least ≤ d.year ∧ d.year ≤ 9999) (field : Field) :
    least ≤ d.valueOf field ∧ d.valueOf field ≤ field.largest := by
  obtain ⟨-, -, month, month', day, day'⟩ := d.isDate
  cases field with
  | year => exact h
  | month => exact ⟨Int.le_trans small month, month'⟩
  | day => exact ⟨Int.le_trans small day, Int.le_trans day' (monthLength_le _ _)⟩

/-! ### Years of four digits -/

section FourDigits
variable {d : Date} (h : 0 ≤ d.year ∧ d.year ≤ 9999)
include h

theorem get_textParts (field : Field) :
    (textParts d).get field = Text.padded field.width (d.valueOf field).natAbs := by
  cases field with
  | year => exact if_pos h
  | month => rfl
  | day => rfl

theorem isLiteral_textParts (field : Field) :
    IsLiteral field (((textParts d).map String.ofList).get field) := by
  have bounds := valueOf_bounds (by decide) h field
  have fits : field.largest < ((10 ^ field.width : Nat) : Int) := by cases field <;> decide
  have wide : 0 < field.width := by cases field <;> decide
  rw [isLiteral_iff, Triple.get_map, get_textParts h, String.toList_ofList]
  exact ⟨numeral_padded _ _, Text.length_padded wide (by omega)⟩

theorem literalValue_textParts (field : Field) :
    (literalValue (((textParts d).map String.ofList).get field) : Int) = d.valueOf field := by
  have positive := (valueOf_bounds (by decide) h field).1
  rw [Triple.get_map, get_textParts h, literalValue, String.toList_ofList, numeralValue,
    Text.ofDigitChars_padded]
  omega

end FourDigits

theorem resolve_text_of_ordinary {d : Date} (h : 1 ≤ d.year ∧ d.year ≤ 9999) (anchor : Date) :
    resolve d.text anchor = .ok d := by
  have four : 0 ≤ d.year ∧ d.year ≤ 9999 := ⟨Int.le_trans (by decide) h.1, h.2⟩
  have value := literalValue_textParts four
  refine (resolve_literals_eq_ok_iff (split_text four.1) (isLiteral_textParts four)).2
    ⟨fun field => ?_, (value .year).symm, (value .month).symm, (value .day).symm⟩
  have bounds := valueOf_bounds (Int.le_refl 1) h field
  rw [← value field] at bounds
  exact ⟨Int.ofNat_le.1 bounds.1, bounds.2⟩

theorem resolve_text_of_zero {d : Date} (h : d.year = 0) (anchor : Date) :
    resolve d.text anchor = .error ⟨d.text, .outOfRange .year 0 1⟩ := by
  have four : 0 ≤ d.year ∧ d.year ≤ 9999 := by omega
  have value := literalValue_textParts four .year
  have zero : literalValue (((textParts d).map String.ofList).get .year) = 0 :=
    Int.ofNat.inj (value.trans h)
  refine (resolve_literals_eq_error_iff (split_text four.1) (isLiteral_textParts four)).2
    ⟨rfl, .inl ⟨.year, ⟨fun before earlier => absurd earlier (Nat.not_lt_zero _), ?_⟩, ?_⟩⟩
  · rw [zero]
    decide
  · rw [zero]
    rfl

/-! ### Years with a sign -/

/-- A plus begins neither a literal nor a keyword. -/
theorem entry_of_plus {field : Field} {digits : List Char} (h : Numeral digits) :
    Entry.ofText field (String.ofList ('+' :: digits)) =
      .error (.invalidValue field (String.ofList ('+' :: digits))) := by
  have raised : Text.upper ('+' :: digits) = '+' :: Text.upper digits := rfl
  have front : field.keyword.toList.isPrefixOf (Text.upper ('+' :: digits)) = false := by
    rw [raised]
    cases field <;> rfl
  have signed : ('+' :: digits).all Char.isDigit = false := rfl
  simp [Entry.ofText, String.toList_ofList, trim_plus h, signed, front]

theorem resolve_text_of_late {d : Date} (h : 9999 < d.year) (anchor : Date) :
    resolve d.text anchor =
      .error ⟨d.text, .invalidValue .year (String.ofList (Date.yearText d.year))⟩ := by
  have year : Date.yearText d.year = '+' :: Text.padded 4 d.year.natAbs := by
    rw [Date.yearText, if_neg (by omega), if_neg (by omega)]
  rw [resolve_eq_error_iff]
  refine ⟨rfl, .inr ⟨_, split_text (by omega), .inl ⟨.year, ?_, ?_⟩⟩⟩
  · exact fun before earlier => absurd earlier (Nat.not_lt_zero _)
  · show Term.ofText .year anchor (String.ofList (Date.yearText d.year)) = _
    rw [year, Term.ofText, entry_of_plus (numeral_padded 4 _)]
    rfl

/-- A minus in front of the year is a separator after an empty field. -/
theorem resolve_text_of_negative {d : Date} (h : d.year < 0) (anchor : Date) :
    resolve d.text anchor = .error ⟨d.text, .fieldCount 4⟩ := by
  have year : Date.yearText d.year = '-' :: Text.padded 4 d.year.natAbs := by
    rw [Date.yearText, if_neg (by omega), if_pos h]
  let front := [[], Text.padded 4 d.year.natAbs, Text.padded 2 d.month.natAbs]
  have text : d.text =
      String.ofList (['-'].intercalate (front ++ [Text.padded 2 d.day.natAbs])) := by
    rw [Date.text, Date.chars, year]
    simp [front, List.intercalate_cons_cons]
  have pieces : ∀ piece ∈ front ++ [Text.padded 2 d.day.natAbs], IsPiece piece := by
    simp only [front, List.cons_append, List.nil_append, List.forall_mem_cons]
    exact ⟨isPiece_plain nofun nofun, isPiece_numeral (numeral_padded 4 _),
      isPiece_numeral (numeral_padded 2 _), isPiece_numeral (numeral_padded 2 _),
      List.forall_mem_nil _⟩
  have unsplit := split_joined_of_count pieces (all_isBracket_numeral (numeral_padded 2 _))
    (by simp [front])
  rw [← text] at unsplit
  exact resolve_eq_error_iff.2 ⟨rfl, .inl unsplit⟩

/-! ### Back and forth -/

/-- What is wrong with the text of a date whose year no literal can hold. -/
def yearFault (year : Int) : Fault :=
  if year < 0 then .fieldCount 4
  else if year = 0 then .outOfRange .year 0 1
  else .invalidValue .year (String.ofList (Date.yearText year))

/-- The text of a date names the date again, from any anchor, if a literal can hold its year. -/
theorem resolve_text (d anchor : Date) : resolve d.text anchor =
    if 1 ≤ d.year ∧ d.year ≤ 9999 then .ok d else .error ⟨d.text, yearFault d.year⟩ := by
  split
  · next ordinary => exact resolve_text_of_ordinary ordinary anchor
  · next other =>
    unfold yearFault
    split
    · next negative => exact resolve_text_of_negative negative anchor
    · split
      · next zero => exact resolve_text_of_zero zero anchor
      · next positive => exact resolve_text_of_late (by omega) anchor

theorem padded_literalValue {field : Field} {text : String} (h : IsLiteral field text) :
    Text.padded field.width (literalValue text) = text.toList := by
  obtain ⟨⟨ne, digits⟩, width⟩ := isLiteral_iff.1 h
  rw [← width]
  exact Text.padded_ofDigitChars ne digits

/-- The text of a date with the numbers of three literals is these literals. -/
theorem text_of_literals {fields : Triple String}
    (literal : ∀ field, IsLiteral field (fields.get field)) {d : Date}
    (year : 0 ≤ d.year ∧ d.year ≤ 9999)
    (values : ∀ field, d.valueOf field = literalValue (fields.get field)) :
    d.text = fields.year ++ "-" ++ fields.month ++ "-" ++ fields.day := by
  have parts : textParts d = fields.map String.toList := Triple.ext_get fun field => by
    rw [get_textParts year, Triple.get_map, values field, Int.natAbs_natCast,
      padded_literalValue (literal field)]
  rw [text_eq_joined, parts, ← String.toList_inj, String.toList_ofList, intercalate_toList]
  simp [Triple.map]

/-- **Date texts and literal templates.** The text of a date in the years 1 to 9999 names this date,
from any anchor, and the text of any other date names none. A template of literals is itself the text
of the date that it names. It names none exactly when a literal is out of its range, which is
reported for the first such literal, or the three numbers are no date. -/
theorem literal_text_inverse :
    (∀ d anchor : Date, resolve d.text anchor =
      if 1 ≤ d.year ∧ d.year ≤ 9999 then .ok d else .error ⟨d.text, yearFault d.year⟩) ∧
    ∀ (template : String) (fields : Triple String) (anchor : Date),
      split template = .ok fields → (∀ field, IsLiteral field (fields.get field)) →
        (∀ d, resolve template anchor = .ok d →
          d.text = fields.year ++ "-" ++ fields.month ++ "-" ++ fields.day) ∧
        ((∃ rejection, resolve template anchor = .error rejection) ↔
          (∃ field, ¬ InRange field (literalValue (fields.get field))) ∨ ¬ FormDate fields) ∧
        ∀ rejection, resolve template anchor = .error rejection ↔ rejection.template = template ∧
          ((∃ field, FirstOutOfRange fields field ∧
              rejection.fault = rangeFault field (literalValue (fields.get field))) ∨
            (∀ field, InRange field (literalValue (fields.get field))) ∧ ¬ FormDate fields ∧
              rejection.fault = dateFault fields) := by
  refine ⟨resolve_text, fun template fields anchor hs literal => ⟨fun d named => ?_, ?_,
    fun rejection => resolve_literals_eq_error_iff hs literal⟩⟩
  · obtain ⟨range, year, month, day⟩ := (resolve_literals_eq_ok_iff hs literal).1 named
    have bounds : InRange .year (literalValue fields.year) := range .year
    refine text_of_literals literal ?_ fun field => ?_
    · rw [year]
      exact ⟨Int.natCast_nonneg _, bounds.2⟩
    · cases field with
      | year => exact year
      | month => exact month
      | day => exact day
  · rw [exists_error_iff, exists_resolve_literals_iff hs literal, not_and_or, not_forall]

/-- A leap day, read and written, the same day in another year, and a year before the first. -/
theorem literal_text_leap_day :
    resolve (⟨2024, 2, 29, by decide⟩ : Date).text ⟨2000, 1, 1, by decide⟩ =
        .ok ⟨2024, 2, 29, by decide⟩ ∧
      resolve (⟨-4, 2, 29, by decide⟩ : Date).text ⟨2000, 1, 1, by decide⟩ =
        .error ⟨"-0004-02-29", .fieldCount 4⟩ ∧
      split "2024-<02>- 29" = .ok ⟨"2024", "02", "29"⟩ ∧
      (∀ field, IsLiteral field ((⟨"2024", "02", "29"⟩ : Triple String).get field)) ∧
      resolve "2024-<02>- 29" ⟨2000, 1, 1, by decide⟩ = .ok ⟨2024, 2, 29, by decide⟩ ∧
      (⟨2024, 2, 29, by decide⟩ : Date).text = "2024" ++ "-" ++ "02" ++ "-" ++ "29" ∧
      split "2023-<02>- 29" = .ok ⟨"2023", "02", "29"⟩ ∧
      (∀ field, IsLiteral field ((⟨"2023", "02", "29"⟩ : Triple String).get field)) ∧
      ∃ rejection, resolve "2023-<02>- 29" ⟨2000, 1, 1, by decide⟩ = .error rejection := by
  obtain ⟨write, read⟩ := literal_text_inverse
  have leap : split "2024-<02>- 29" = .ok ⟨"2024", "02", "29"⟩ := by decide +kernel
  have leapLiteral (field : Field) :
      IsLiteral field ((⟨"2024", "02", "29"⟩ : Triple String).get field) := by
    cases field <;> exact ⟨_, rfl⟩
  have named : resolve "2024-<02>- 29" ⟨2000, 1, 1, by decide⟩ = .ok ⟨2024, 2, 29, by decide⟩ := by
    decide +kernel
  have common : split "2023-<02>- 29" = .ok ⟨"2023", "02", "29"⟩ := by decide +kernel
  have commonLiteral (field : Field) :
      IsLiteral field ((⟨"2023", "02", "29"⟩ : Triple String).get field) := by
    cases field <;> exact ⟨_, rfl⟩
  have noDate : ¬ FormDate ⟨"2023", "02", "29"⟩ := by decide
  exact ⟨write _ _, write _ _, leap, leapLiteral, named, (read _ _ _ leap leapLiteral).1 _ named,
    common, commonLiteral, (read _ _ _ common commonLiteral).2.1.2 (.inr noDate)⟩

end Almanac.Template
