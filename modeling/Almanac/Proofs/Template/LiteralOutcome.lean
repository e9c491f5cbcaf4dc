import Almanac.Proofs.Template.FieldOutcome
import Almanac.Proofs.Template.RangeMessage

/-! What becomes of a literal.

A literal is told by its look and then evaluated, and the evaluation does not rely on the look.
`LiteralOutcome` says what any text comes to as a literal, also one that is never told to be one: it
is no number, or it denotes a number, any zeros in front aside, that is too large, in the field's
range or out of it. A number out of range is reported with the bound that it has crossed, so the
condition in the message is one that it breaks and that every number in the range meets
(`literal_outcome`). -/
namespace Almanac.Template
variable {field : Field} {anchor : Date} {text : String}

/-! ### Outcomes -/

/-- What evaluating a text as a literal comes to: a term, or a fault. -/
inductive LiteralOutcome (field : Field) (text : String) : Except Fault Term → Prop where
  | empty : text = "" → LiteralOutcome field text (.error (.notANumber field text))
  | noDigit {c} : c ∈ text.toList → c.isDigit = false →
      LiteralOutcome field text (.error (.notANumber field text))
  /-- Beyond the numbers of 32 bits. -/
  | tooLarge {n} : Text.Denotes text.toList n → largestNumber < n →
      LiteralOutcome field text (.error (.notANumber field text))
  /-- The number is the base, and nothing is added to it. -/
  | inRange {n term} : Text.Denotes text.toList n → InRange field n → term.Is field n 0 →
      LiteralOutcome field text (.ok term)
  /-- The fault holds the number and the bound that it has crossed. -/
  | outOfRange {n} : Text.Denotes text.toList n → n ≤ largestNumber → ¬ InRange field n →
      LiteralOutcome field text (.error (rangeFault field n))

theorem denotes_iff {cs : List Char} {n : Nat} :
    Text.Denotes cs n ↔ Numeral cs ∧ numeralValue cs = n :=
  Text.denotes_iff

theorem term_of_unreadable (h : ¬ ReadableNumber text.toList) :
    (Entry.literal text).term field anchor = .error (.notANumber field text) := by
  rw [Entry.term, readLiteral, readNumber_of_unreadable h, String.ofList_toList]
  rfl

/-- A text that denotes a number of 32 bits is the number, if it is in range. -/
theorem term_of_denotes {n : Nat} (h : Text.Denotes text.toList n) (small : n ≤ largestNumber) :
    (Entry.literal text).term field anchor =
      if InRange field n then .ok ⟨field, .ofNat n, 0⟩ else .error (rangeFault field n) := by
  obtain ⟨numeral, rfl⟩ := denotes_iff.1 h
  rw [Entry.term, readLiteral_eq numeral small]
  split
  · rfl
  · rfl

theorem InRange.le_largestNumber {n : Nat} (h : InRange field n) : n ≤ largestNumber :=
  Int.ofNat_le.1 (Int.le_trans h.2 (largest_le field))

/-- The evaluation comes to the outcome. -/
theorem term_of_outcome {result : Except Fault Term} (h : LiteralOutcome field text result) :
    (Entry.literal text).term field anchor = result := by
  cases h with
  | empty h =>
    refine term_of_unreadable fun readable => readable.1.1 ?_
    rw [h]
    rfl
  | noDigit member other =>
    exact term_of_unreadable fun readable => by cases (readable.1.2 _ member).symm.trans other
  | tooLarge denoted large =>
    obtain ⟨-, rfl⟩ := denotes_iff.1 denoted
    exact term_of_unreadable fun readable => Nat.not_le.2 large readable.2
  | inRange denoted range is =>
    have small := range.le_largestNumber
    rw [term_of_denotes denoted small, if_pos range]
    exact congrArg Except.ok (Term.eq_of_is ⟨rfl, toInt_ofNat small, rfl⟩ is)
  | outOfRange denoted small range => rw [term_of_denotes denoted small, if_neg range]

/-- Every text has an outcome as a literal. -/
theorem exists_literalOutcome (field : Field) (text : String) :
    ∃ result, LiteralOutcome field text result := by
  cases number : Text.number? text.toList with
  | none =>
    rcases Text.number?_eq_none_iff.1 number with empty | ⟨c, member, other⟩
    · exact ⟨_, .empty (String.toList_eq_nil_iff.1 empty)⟩
    · exact ⟨_, .noDigit member other⟩
  | some n =>
    -- What is in range is not too large, so the range comes first.
    obtain ⟨numeral, value⟩ := number?_eq_some_iff.1 number
    have denoted : Text.Denotes text.toList n := denotes_iff.2 ⟨numeral, value.symm⟩
    by_cases range : InRange field n
    · exact ⟨.ok ⟨field, .ofNat n, 0⟩,
        .inRange denoted range ⟨rfl, toInt_ofNat range.le_largestNumber, rfl⟩⟩
    by_cases small : n ≤ largestNumber
    · exact ⟨_, .outOfRange denoted small range⟩
    · exact ⟨_, .tooLarge denoted (Nat.not_le.1 small)⟩

theorem term_literal_iff {result : Except Fault Term} :
    (Entry.literal text).term field anchor = result ↔ LiteralOutcome field text result := by
  constructor
  · rintro rfl
    obtain ⟨result, h⟩ := exists_literalOutcome field text
    rwa [term_of_outcome h]
  · exact term_of_outcome

/-! ### Numbers out of range -/

/-- A number out of range has crossed the lower bound or the upper one. -/
theorem rangeFault_cases {n : Nat} (h : ¬ InRange field n) :
    (n : Int) < 1 ∧ rangeFault field n = .outOfRange field n 1 ∨
      field.largest < n ∧ rangeFault field n = .outOfRange field n field.largest := by
  unfold rangeFault
  by_cases small : n < 1
  · exact .inl ⟨by omega, by rw [if_pos small]⟩
  · exact .inr ⟨Int.not_le.1 fun within => h ⟨Nat.not_lt.1 small, within⟩, by rw [if_neg small]⟩

/-- The condition that is made of a number out of range and of the bound it has crossed is one that
the number breaks and that every number in range meets. -/
theorem condition_of_rangeFault {n : Nat} {other : Field} {value bound : Int}
    (outside : ¬ InRange field n) (h : rangeFault field n = .outOfRange other value bound) :
    other = field ∧ ¬ (Condition.of value bound).Holds value ∧
      ∀ legal, 1 ≤ legal → legal ≤ field.largest → (Condition.of value bound).Holds legal := by
  rcases rangeFault_cases outside with ⟨below, fault⟩ | ⟨above, fault⟩
  · obtain ⟨rfl, rfl, rfl⟩ := Fault.outOfRange.inj (fault.symm.trans h)
    refine ⟨rfl, Condition.not_holds_of (Int.ne_of_lt below), fun legal least _ => ?_⟩
    rw [Condition.of, if_pos below]
    exact least
  · obtain ⟨rfl, rfl, rfl⟩ := Fault.outOfRange.inj (fault.symm.trans h)
    refine ⟨rfl, Condition.not_holds_of (Int.ne_of_gt above), fun legal _ largest => ?_⟩
    rw [Condition.of, if_neg (Int.not_lt.2 (Int.le_of_lt above))]
    exact largest

/-- **What becomes of a literal.** Evaluating any text as a literal comes to its outcome and to
nothing else. The message of a number out of range can be read in one way only: it shows the field,
the number and, in a condition, the bound of the fault. The number breaks this condition, and every
number in the field's range meets it. -/
theorem literal_outcome : (∀ result,
      (Entry.literal text).term field anchor = result ↔ LiteralOutcome field text result) ∧
    ∀ other value bound,
      (Entry.literal text).term field anchor = .error (.outOfRange other value bound) →
      other = field ∧ ∃ condition,
        (condition = .atLeast bound ∨ condition = .atMost bound) ∧
        (∀ report, (Fault.outOfRange other value bound).message = RangeReport.text report ↔
          report = ⟨field, value, condition⟩) ∧
        ¬ condition.Holds value ∧
        ∀ legal, 1 ≤ legal → legal ≤ field.largest → condition.Holds legal := by
  refine ⟨fun result => term_literal_iff, fun other value bound h => ?_⟩
  have h := term_literal_iff.1 h
  generalize result : Except.error (Fault.outOfRange other value bound) = outcome at h
  cases h with
  | outOfRange denoted small outside =>
    obtain ⟨rfl, broken, met⟩ := condition_of_rangeFault outside (Except.error.inj result).symm
    exact ⟨rfl, .of value bound, Condition.of_cases value bound,
      fun report => message_outOfRange_eq_iff, broken, met⟩
  | empty | noDigit | tooLarge | inRange => cases result

/-- Zeros in front do not make a number too large, and the message shows it without them. -/
theorem literal_outcome_month :
    (Entry.literal "000000000013").term .month ⟨2024, 6, 15, by decide⟩ =
        .error (.outOfRange .month 13 12) ∧
      LiteralOutcome .month "000000000013" (.error (.outOfRange .month 13 12)) ∧
      (Fault.outOfRange .month 13 12).message =
        "field 'month' has invalid value (is=13, must be <= 12)" ∧
      ¬ (Condition.atMost 12).Holds 13 ∧
      ∀ legal, 1 ≤ legal → legal ≤ 12 → (Condition.atMost 12).Holds legal := by
  have evaluated : (Entry.literal "000000000013").term .month ⟨2024, 6, 15, by decide⟩ =
      .error (.outOfRange .month 13 12) := rfl
  obtain ⟨outcome, message⟩ :=
    @literal_outcome .month ⟨2024, 6, 15, by decide⟩ "000000000013"
  obtain ⟨-, condition, -, read, broken, met⟩ := message .month 13 12 evaluated
  have shown := (read ⟨.month, 13, .atMost 12⟩).1 (message_outOfRange .month 13 12)
  obtain rfl : .atMost 12 = condition := (RangeReport.mk.inj shown).2.2
  exact ⟨evaluated, (outcome _).1 evaluated, rfl, broken, met⟩

end Almanac.Template
