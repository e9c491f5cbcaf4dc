import Almanac.Proofs.Template.Literals

/-! What becomes of a field.

`Outcome` says of any text, trimmed or not, what reading it in a field comes to: the term, or the
one fault that is reported when several things are wrong. A blank text comes first, then numbers of
the field's width, then texts that do not begin with the keyword. The rest is left to the offset,
whose outcomes (`OffsetOutcome`) look at the upper case of the text: a second sign comes before a
missing number, that before a wrong keyword, and that before a wrong number. Each text has an outcome
(`exists_outcome`), and it is what the reader comes to (`ofText_of_outcome`). -/
namespace Almanac.Template

/-! ### Outcomes of an offset -/

/-- A text of digits whose number is not too large. -/
def ReadableNumber (cs : List Char) : Prop :=
  Numeral cs ∧ numeralValue cs ≤ largestNumber

/-- What reading an offset comes to: the number to add, or a fault. A text is parted at its first
sign, and `word` is what stands before it. -/
inductive OffsetOutcome (field : Field) : List Char → Except Fault Int → Prop where
  /-- The keyword alone. -/
  | keyword {cs} : Unsigned cs → Text.trim cs = field.keyword.toList →
      OffsetOutcome field cs (.ok 0)
  /-- Something else, without a sign. -/
  | otherWord {cs} : Unsigned cs → Text.trim cs ≠ field.keyword.toList →
      OffsetOutcome field cs (.error (.wrongKeyword field (String.ofList (Text.trim cs))))
  /-- A second sign: the first one behind the sign that parts the text. -/
  | secondSign {word sign between second rest} : Unsigned word → isOperator sign = true →
      Unsigned between → isOperator second = true →
      OffsetOutcome field (word ++ sign :: (between ++ second :: rest))
        (.error (.unexpectedOperator field second))
  /-- Nothing but a gap behind the sign. -/
  | noAmount {word sign gap} : Unsigned word → isOperator sign = true → Text.Gap gap →
      OffsetOutcome field (word ++ sign :: gap) (.error (.blankOffset field))
  /-- Something else than the keyword before the sign. -/
  | otherBefore {word sign amount} : Unsigned word → isOperator sign = true → Unsigned amount →
      ¬ Text.Gap amount → Text.trim word ≠ field.keyword.toList →
      OffsetOutcome field (word ++ sign :: amount)
        (.error (.wrongKeyword field (String.ofList (Text.trim word))))
  /-- The keyword and the sign, and no number that can be read. -/
  | noNumber {word sign amount} : Unsigned word → isOperator sign = true → Unsigned amount →
      ¬ Text.Gap amount → Text.trim word = field.keyword.toList →
      ¬ ReadableNumber (Text.trim amount) →
      OffsetOutcome field (word ++ sign :: amount)
        (.error (.notANumber field (String.ofList (Text.trim amount))))
  /-- The keyword, a sign and a number. -/
  | offset {word sign amount} : Unsigned word → isOperator sign = true → Unsigned amount →
      Text.trim word = field.keyword.toList → ReadableNumber (Text.trim amount) →
      OffsetOutcome field (word ++ sign :: amount)
        (.ok (if sign = '-' then -numeralValue (Text.trim amount)
          else numeralValue (Text.trim amount)))

theorem readNumber_of_unreadable {field : Field} {cs : List Char} (h : ¬ ReadableNumber cs) :
    readNumber field cs = .error (.notANumber field (String.ofList cs)) := by
  unfold readNumber
  split
  · next n number =>
    obtain ⟨numeral, rfl⟩ := number?_eq_some_iff.1 number
    exact if_neg fun small => h ⟨numeral, small⟩
  · rfl

theorem readKeyword_of_ne {field : Field} {cs : List Char}
    (h : Text.trim cs ≠ field.keyword.toList) :
    readKeyword field cs = .error (.wrongKeyword field (String.ofList (Text.trim cs))) := by
  refine if_neg fun same => h ?_
  rw [← same, String.toList_ofList]

theorem not_isEmpty_trim {cs : List Char} (h : ¬ Text.Gap cs) : ¬ (Text.trim cs).isEmpty = true := by
  rwa [List.isEmpty_iff, Text.trim_eq_nil_iff]

/-- The reader comes to the outcome. -/
theorem readOffset_of_outcome {field : Field} {cs : List Char} {result : Except Fault Int}
    (h : OffsetOutcome field cs result) : (readOffset field cs).map Int32.toInt = result := by
  cases h with
  | keyword plain same =>
    rw [readOffset_of_unsigned plain, readKeyword_eq_ok_iff.2 same]
    rfl
  | otherWord plain other =>
    rw [readOffset_of_unsigned plain, readKeyword_of_ne other]
    rfl
  | secondSign hw hs hb second =>
    rw [readOffset_secondSign hw hs hb second]
    rfl
  | noAmount hw hs gap =>
    rw [readOffset_oneSign hw hs (unsigned_gap gap), Text.trim_gap gap]
    rfl
  | otherBefore hw hs ha visible other =>
    rw [readOffset_oneSign hw hs ha, if_neg (not_isEmpty_trim visible), readKeyword_of_ne other]
    rfl
  | noNumber hw hs ha visible same other =>
    rw [readOffset_oneSign hw hs ha, if_neg (not_isEmpty_trim visible), readKeyword_eq_ok_iff.2 same,
      readNumber_of_unreadable other]
    rfl
  | offset hw hs ha same number =>
    rw [(readOffset_sign_eq_ok_iff hw hs).2 ⟨same, ha, number.1, number.2, rfl⟩]
    exact congrArg Except.ok (toInt_signed number.2)

/-- Every text has an outcome as an offset. -/
theorem exists_offsetOutcome (field : Field) (cs : List Char) :
    ∃ result, OffsetOutcome field cs result := by
  rcases unsigned_or_exists_sign cs with plain | ⟨word, sign, amount, rfl, hw, hs⟩
  · by_cases same : Text.trim cs = field.keyword.toList
    · exact ⟨_, .keyword plain same⟩
    · exact ⟨_, .otherWord plain same⟩
  · rcases unsigned_or_exists_sign amount with ha | ⟨between, second, rest, rfl, hb, hs'⟩
    · by_cases gap : Text.Gap amount
      · exact ⟨_, .noAmount hw hs gap⟩
      by_cases same : Text.trim word = field.keyword.toList
      · by_cases number : ReadableNumber (Text.trim amount)
        · exact ⟨_, .offset hw hs ha same number⟩
        · exact ⟨_, .noNumber hw hs ha gap same number⟩
      · exact ⟨_, .otherBefore hw hs ha gap same⟩
    · exact ⟨_, .secondSign hw hs hb hs'⟩

/-! ### Outcomes of a field -/

/-- A number of the field's width, in its range or not. -/
def WidthNumber (field : Field) (cs : List Char) : Prop :=
  Numeral cs ∧ cs.length = field.width

/-- Neither blank nor a number of the field's width: the keyword is expected. -/
def Worded (field : Field) (cs : List Char) : Prop :=
  ¬ Text.Gap cs ∧ ¬ WidthNumber field cs

/-- What reading a field comes to, seen from an anchor: a term, or a fault. -/
inductive Outcome (field : Field) (anchor : Date) (text : String) : Except Fault Term → Prop where
  | blank : Text.Gap text.toList → Outcome field anchor text (.error (.blankField field))
  /-- A number of the field's width is itself, and nothing is added to it. -/
  | literal {term} : WidthNumber field text.toList → InRange field (literalValue text) →
      term.Is field (literalValue text) 0 → Outcome field anchor text (.ok term)
  | outOfRange : WidthNumber field text.toList → ¬ InRange field (literalValue text) →
      Outcome field anchor text (.error (rangeFault field (literalValue text)))
  /-- The fault holds the text as written. -/
  | invalid : Worded field text.toList → ¬ field.keyword.toList <+: Text.upper text.toList →
      Outcome field anchor text (.error (.invalidValue field text))
  /-- The anchor's own value and what the offset adds to it. -/
  | symbolic {term offset} : Worded field text.toList →
      field.keyword.toList <+: Text.upper text.toList →
      OffsetOutcome field (Text.upper text.toList) (.ok offset) →
      term.Is field (anchor.valueOf field) offset → Outcome field anchor text (.ok term)
  /-- The fault of the offset. -/
  | rejected {fault} : Worded field text.toList →
      field.keyword.toList <+: Text.upper text.toList →
      OffsetOutcome field (Text.upper text.toList) (.error fault) →
      Outcome field anchor text (.error fault)

theorem entry_of_gap {field : Field} {text : String} (h : Text.Gap text.toList) :
    Entry.ofText field text = .error (.blankField field) := by
  simp [Entry.ofText, Text.trim_gap h]

/-- A text of words is symbolic when it begins with the keyword. -/
theorem entry_of_worded {field : Field} {text : String} (h : Worded field text.toList) :
    Entry.ofText field text =
      if field.keyword.toList.isPrefixOf (Text.upper text.toList) then
        .ok (.symbolic (String.ofList (Text.upper text.toList)))
      else .error (.invalidValue field text) := by
  obtain ⟨visible, other⟩ := h
  have other : ¬ (text.toList.length = field.width ∧ text.toList.all Char.isDigit = true) := by
    rintro ⟨width, digits⟩
    refine other ⟨⟨?_, List.all_eq_true.1 digits⟩, width⟩
    intro none
    exact visible (by rw [none]; exact nofun)
  rw [Entry.ofText]
  exact (if_neg (not_isEmpty_trim visible)).trans (if_neg other)

/-- What begins with the keyword is what its upper case says as an offset. -/
theorem ofText_of_keyword {field : Field} {anchor : Date} {text : String}
    (worded : Worded field text.toList)
    (keyword : field.keyword.toList <+: Text.upper text.toList) :
    Term.ofText field anchor text = (readOffset field (Text.upper text.toList)).map
      (⟨field, .ofInt (anchor.valueOf field), ·⟩) := by
  have entry : Entry.ofText field text =
      .ok (.symbolic (String.ofList (Text.upper text.toList))) := by
    rw [entry_of_worded worded, if_pos (by rwa [List.isPrefixOf_iff_prefix])]
  rw [ofText_of_entry entry, Entry.term, String.toList_ofList]

/-- The reader comes to the outcome. -/
theorem ofText_of_outcome {field : Field} {anchor : Date} {text : String}
    {result : Except Fault Term} (h : Outcome field anchor text result) :
    Term.ofText field anchor text = result := by
  cases h with
  | blank gap =>
    rw [Term.ofText, entry_of_gap gap]
    rfl
  | literal number range is =>
    rw [ofText_of_isLiteral (isLiteral_iff.2 number), if_pos range]
    exact congrArg Except.ok (Term.eq_of_is ⟨rfl, toInt_ofNat
      (literalValue_le (isLiteral_iff.2 number)), rfl⟩ is)
  | outOfRange number range => rw [ofText_of_isLiteral (isLiteral_iff.2 number), if_neg range]
  | invalid worded other =>
    rw [Term.ofText, entry_of_worded worded, if_neg (by rwa [List.isPrefixOf_iff_prefix])]
    rfl
  | @symbolic term offset worded keyword h is =>
    obtain ⟨amount, read, rfl⟩ := map_eq_ok_iff.1 (readOffset_of_outcome h)
    rw [ofText_of_keyword worded keyword, read]
    exact congrArg Except.ok (Term.eq_of_is ⟨rfl, toInt_valueOf anchor field, rfl⟩ is)
  | rejected worded keyword h =>
    have read := map_eq_error_iff.1 (readOffset_of_outcome h)
    rw [ofText_of_keyword worded keyword, read]
    rfl

/-- Every text has an outcome. -/
theorem exists_outcome (field : Field) (anchor : Date) (text : String) :
    ∃ result, Outcome field anchor text result := by
  by_cases gap : Text.Gap text.toList
  · exact ⟨_, .blank gap⟩
  by_cases number : WidthNumber field text.toList
  · by_cases range : InRange field (literalValue text)
    · exact ⟨.ok (literalTerm field text), .literal number range
        ⟨rfl, toInt_ofNat (literalValue_le (isLiteral_iff.2 number)), rfl⟩⟩
    · exact ⟨_, .outOfRange number range⟩
  have worded : Worded field text.toList := ⟨gap, number⟩
  by_cases keyword : field.keyword.toList <+: Text.upper text.toList
  · obtain ⟨result, h⟩ := exists_offsetOutcome field (Text.upper text.toList)
    cases result with
    | error fault => exact ⟨_, .rejected worded keyword h⟩
    | ok offset =>
      obtain ⟨amount, -, rfl⟩ := map_eq_ok_iff.1 (readOffset_of_outcome h)
      exact ⟨.ok ⟨field, .ofInt (anchor.valueOf field), amount⟩, .symbolic worded keyword h
        ⟨rfl, toInt_valueOf anchor field, rfl⟩⟩
  · exact ⟨_, .invalid worded keyword⟩

/-! ### A wrong keyword -/

theorem isBlank_keyword (field : Field) :
    ∀ c ∈ field.keyword.toList, Text.isBlank c = false := fun c hc => by
  simpa using of_keyword (p := (!Text.isBlank ·)) (by decide) hc

/-- What stands before the first sign keeps the keyword that the text begins with. -/
theorem keyword_before_sign {field : Field} {word amount : List Char} {sign : Char}
    (hs : isOperator sign = true) (h : field.keyword.toList <+: word ++ sign :: amount) :
    field.keyword.toList <+: word := by
  obtain ⟨rest, parts⟩ := h
  obtain ⟨more, within, -⟩ | ⟨more, whole, behind⟩ := List.append_eq_append_iff.1 parts
  · exact ⟨more, within.symm⟩
  · obtain _ | ⟨c, more⟩ := more
    · exact ⟨[], (List.append_nil _).trans (whole.trans (List.append_nil _))⟩
    · obtain ⟨rfl, -⟩ := List.cons.inj behind
      have unsigned := unsigned_keyword field sign (by rw [whole]; simp)
      cases unsigned.symm.trans hs

/-- A word that begins with the keyword and is not the keyword goes on behind it. -/
theorem keyword_goes_on {field : Field} {word : List Char} (h : field.keyword.toList <+: word)
    (other : Text.trim word ≠ field.keyword.toList) :
    ∃ c rest, Text.trim word = field.keyword.toList ++ c :: rest := by
  obtain ⟨rest, parts⟩ := Text.isPrefix_trim (isBlank_keyword field) h
  obtain _ | ⟨c, rest⟩ := rest
  · exact absurd (parts.symm.trans (List.append_nil _)) other
  · exact ⟨c, rest, parts.symm⟩

/-- A wrong keyword that is reported of an offset goes on behind the keyword. -/
theorem wrongKeyword_goes_on {field other : Field} {cs : List Char} {found : String}
    (keyword : field.keyword.toList <+: cs)
    (h : OffsetOutcome field cs (.error (.wrongKeyword other found))) :
    other = field ∧ ∃ c rest, found.toList = field.keyword.toList ++ c :: rest := by
  generalize result : Except.error (Fault.wrongKeyword other found) = outcome at h
  cases h with
  | otherWord plain different =>
    obtain ⟨rfl, rfl⟩ := Fault.wrongKeyword.inj (Except.error.inj result)
    rw [String.toList_ofList]
    exact ⟨rfl, keyword_goes_on keyword different⟩
  | otherBefore hw hs ha visible different =>
    obtain ⟨rfl, rfl⟩ := Fault.wrongKeyword.inj (Except.error.inj result)
    rw [String.toList_ofList]
    exact ⟨rfl, keyword_goes_on (keyword_before_sign hs keyword) different⟩
  | keyword | secondSign | noAmount | noNumber | offset => cases result

/-- **What becomes of a field.** Reading any text comes to its outcome and to nothing else. A wrong
keyword that is reported begins with the keyword and goes on behind it, and a number that has been
read can be taken away as well as added. -/
theorem ofText_outcome :
    (∀ field anchor text result,
      Term.ofText field anchor text = result ↔ Outcome field anchor text result) ∧
    (∀ field anchor text other found,
      Term.ofText field anchor text = .error (.wrongKeyword other found) →
        other = field ∧ ∃ c rest, found.toList = field.keyword.toList ++ c :: rest) ∧
    ∀ field cs value, readNumber field cs = .ok value → (-value).toInt = -value.toInt := by
  have outcome_iff (field anchor text result) :
      Term.ofText field anchor text = result ↔ Outcome field anchor text result := by
    constructor
    · rintro rfl
      obtain ⟨result, h⟩ := exists_outcome field anchor text
      rwa [ofText_of_outcome h]
    · exact ofText_of_outcome
  refine ⟨outcome_iff, fun field anchor text other found h => ?_, fun field cs value h => ?_⟩
  · have h := (outcome_iff ..).1 h
    generalize result : Except.error (Fault.wrongKeyword other found) = outcome at h
    cases h with
    | rejected worded keyword offset =>
      obtain rfl := Except.error.inj result
      exact wrongKeyword_goes_on keyword offset
    | blank | literal | outOfRange | invalid | symbolic => cases result
  · obtain ⟨-, small, rfl⟩ := readNumber_eq_ok_iff.1 h
    rw [toInt_neg_ofNat small, toInt_ofNat small]

/-- A wrong keyword is reported and not the wrong number behind it, and the largest number can be
taken away. -/
theorem ofText_outcome_wrongKeyword :
    Term.ofText .year ⟨2024, 1, 1, by decide⟩ "years - x" =
        .error (.wrongKeyword .year "YEARS") ∧
      Outcome .year ⟨2024, 1, 1, by decide⟩ "years - x" (.error (.wrongKeyword .year "YEARS")) ∧
      (∃ c rest, "YEARS".toList = Field.year.keyword.toList ++ c :: rest) ∧
      readNumber .day "2147483647".toList = .ok 2147483647 ∧
      (-2147483647 : Int32).toInt = -2147483647 := by
  have read : Term.ofText .year ⟨2024, 1, 1, by decide⟩ "years - x" =
      .error (.wrongKeyword .year "YEARS") := rfl
  have number : readNumber .day "2147483647".toList = .ok 2147483647 := rfl
  obtain ⟨outcome, wrongKeyword, negative⟩ := ofText_outcome
  exact ⟨read, (outcome ..).1 read, (wrongKeyword _ _ _ _ _ read).2, number,
    negative _ _ _ number⟩

end Almanac.Template
