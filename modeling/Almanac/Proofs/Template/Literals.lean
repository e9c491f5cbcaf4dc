import Almanac.Proofs.Calendar.Order
import Almanac.Proofs.Template.Anchor
import Almanac.Proofs.Template.Attribution
import Almanac.Proofs.Template.Composition
import Almanac.Proofs.Text.Numeral

/-! Templates of literals.

A template of three literals names the date with these three numbers, whatever the anchor is. It
fails when a number is out of its field's range, or when the three are no date
(`resolve_literals_eq_ok_iff`, `resolve_literals_eq_error_iff`). -/
namespace Almanac.Template

/-! ### Literals -/

/-- The number of a literal. -/
def literalValue (text : String) : Nat :=
  numeralValue text.toList

/-- Whether a number may be written in a field. -/
def InRange (field : Field) (n : Nat) : Prop :=
  1 ≤ n ∧ n ≤ field.largest

instance (field : Field) (n : Nat) : Decidable (InRange field n) :=
  inferInstanceAs (Decidable (_ ∧ _))

/-- What is wrong with a number out of its field's range: it has crossed one of the two bounds. -/
def rangeFault (field : Field) (n : Nat) : Fault :=
  .outOfRange field n (if n < 1 then 1 else field.largest)

/-- A literal is a digit word as long as the field is wide. -/
theorem isLiteral_iff {field : Field} {text : String} :
    IsLiteral field text ↔ Numeral text.toList ∧ text.toList.length = field.width := by
  constructor
  · intro h
    obtain ⟨digits, h⟩ := h
    simp only [Entry.ofText] at h
    split at h
    · cases h
    · next visible =>
      split at h
      · next digits =>
        refine ⟨⟨fun empty => visible ?_, List.all_eq_true.1 digits.2⟩, digits.1⟩
        rw [empty]
        rfl
      · split at h
        · cases h
        · cases h
  · intro h
    have entry := entry_of_digits h.1 h.2
    rw [String.ofList_toList] at entry
    exact ⟨text, entry⟩

theorem literalValue_lt {field : Field} {text : String} (h : IsLiteral field text) :
    literalValue text < 10 ^ field.width := by
  obtain ⟨numeral, width⟩ := isLiteral_iff.1 h
  rw [← width]
  exact Text.ofDigitChars_lt numeral.2

theorem literalValue_le {field : Field} {text : String} (h : IsLiteral field text) :
    literalValue text ≤ largestNumber := by
  have small := literalValue_lt h
  have widest : 10 ^ field.width ≤ largestNumber := by cases field <;> decide
  omega

/-- A number is read if it is in range, and reported otherwise. -/
theorem readLiteral_eq {field : Field} {cs : List Char} (h : Numeral cs)
    (small : numeralValue cs ≤ largestNumber) :
    readLiteral field cs = if InRange field (numeralValue cs) then .ok (.ofNat (numeralValue cs))
      else .error (rangeFault field (numeralValue cs)) := by
  have number : readNumber field cs = .ok (.ofNat (numeralValue cs)) :=
    readNumber_eq_ok_iff.2 ⟨h, small, rfl⟩
  have range : readLiteral field cs =
      if Int32.ofNat (numeralValue cs) < 1 then
        .error (.outOfRange field (Int32.ofNat (numeralValue cs)).toInt 1)
      else if field.largest < (Int32.ofNat (numeralValue cs)).toInt then
        .error (.outOfRange field (Int32.ofNat (numeralValue cs)).toInt field.largest)
      else .ok (.ofNat (numeralValue cs)) := by
    rw [readLiteral, number]
    rfl
  rw [range]
  simp only [ofNat_lt_one_iff small, toInt_ofNat small]
  by_cases inside : InRange field (numeralValue cs)
  · obtain ⟨positive, within⟩ := inside
    rw [if_neg (by omega), if_neg (by omega), if_pos ⟨positive, within⟩]
  · rw [if_neg inside, rangeFault]
    by_cases small : numeralValue cs < 1
    · rw [if_pos small, if_pos small]
    · have large : field.largest < numeralValue cs :=
        Int.not_le.1 fun within => inside ⟨Nat.not_lt.1 small, within⟩
      rw [if_neg small, if_neg small, if_pos large]

/-- What a literal stands for, when it is in range. -/
def literalTerm (field : Field) (text : String) : Term :=
  ⟨field, .ofNat (literalValue text), 0⟩

theorem ofText_of_isLiteral {field : Field} {text : String} (h : IsLiteral field text)
    (anchor : Date) : Term.ofText field anchor text =
      if InRange field (literalValue text) then .ok (literalTerm field text)
      else .error (rangeFault field (literalValue text)) := by
  obtain ⟨numeral, width⟩ := isLiteral_iff.1 h
  have entry := entry_of_digits numeral width
  rw [String.ofList_toList] at entry
  rw [ofText_of_entry entry, Entry.term, readLiteral_eq numeral (literalValue_le h)]
  unfold literalValue
  split
  · rfl
  · rfl

/-! ### Templates of literals -/

/-- A literal is out of its range, and every one before it is in range. -/
structure FirstOutOfRange (fields : Triple String) (field : Field) : Prop where
  earlier : ∀ before < field, InRange before (literalValue (fields.get before))
  found : ¬ InRange field (literalValue (fields.get field))

/-- Whether the numbers of three literals are a date. -/
def FormDate (fields : Triple String) : Prop :=
  IsDate (literalValue fields.year) (literalValue fields.month) (literalValue fields.day)

instance (fields : Triple String) : Decidable (FormDate fields) :=
  inferInstanceAs (Decidable (IsDate _ _ _))

/-- What is wrong with three numbers that are no date. -/
def dateFault (fields : Triple String) : Fault :=
  .noSuchDate (literalValue fields.year) (literalValue fields.month) (literalValue fields.day)

section Literals
variable {template : String} {fields : Triple String} {anchor : Date}

theorem firstFault_literals_iff (literal : ∀ field, IsLiteral field (fields.get field))
    {field : Field} {fault : Fault} : FirstFault fields anchor field fault ↔
      FirstOutOfRange fields field ∧ fault = rangeFault field (literalValue (fields.get field)) := by
  have read (field : Field) : (∃ term, Term.ofText field anchor (fields.get field) = .ok term) ↔
      InRange field (literalValue (fields.get field)) := by
    rw [ofText_of_isLiteral (literal field)]
    split
    · next range => simp [range]
    · next range => simp [range]
  have unread : Term.ofText field anchor (fields.get field) = .error fault ↔
      ¬ InRange field (literalValue (fields.get field)) ∧
        fault = rangeFault field (literalValue (fields.get field)) := by
    rw [ofText_of_isLiteral (literal field)]
    split
    · next range => simp [range]
    · next range => simp [range, eq_comm]
  constructor
  · intro h
    obtain ⟨outside, fault⟩ := unread.1 h.found
    exact ⟨⟨fun before earlier => (read before).1 (h.earlier before earlier), outside⟩, fault⟩
  · intro h
    obtain ⟨⟨earlier, outside⟩, fault⟩ := h
    exact ⟨fun before first => (read before).2 (earlier before first), unread.2 ⟨outside, fault⟩⟩

/-- What three literals stand for, when they are in range. -/
def literalTerms (fields : Triple String) : Triple Term :=
  ⟨literalTerm .year fields.year, literalTerm .month fields.month, literalTerm .day fields.day⟩

theorem get_literalTerms (fields : Triple String) (field : Field) :
    (literalTerms fields).get field = literalTerm field (fields.get field) := by
  cases field <;> rfl

theorem terms_literals_eq_ok_iff (literal : ∀ field, IsLiteral field (fields.get field))
    {found : Triple Term} : terms fields anchor = .ok found ↔
      (∀ field, InRange field (literalValue (fields.get field))) ∧ found = literalTerms fields := by
  have same : found = literalTerms fields ↔
      ∀ field, literalTerm field (fields.get field) = found.get field := by
    constructor
    · rintro rfl field
      exact (get_literalTerms fields field).symm
    · intro h
      exact Triple.ext_get fun field => (h field).symm.trans (get_literalTerms fields field).symm
  rw [terms_eq_ok_iff, same, ← forall_and]
  refine forall_congr' fun field => ?_
  rw [ofText_of_isLiteral (literal field)]
  split
  · next range => simp [range]
  · next range => simp [range]

/-- The numbers of three literals are the bases of the date, and nothing is added to them. -/
theorem compose_literals (literal : ∀ field, IsLiteral field (fields.get field)) :
    compose (literalTerms fields) =
      match Date.ofNumbers? (literalValue fields.year) (literalValue fields.month)
        (literalValue fields.day) with
      | some date => .ok date
      | none => .error (dateFault fields) := by
  have base (field : Field) : ((literalTerms fields).get field).base.toInt =
      (literalValue (fields.get field) : Int) := by
    rw [get_literalTerms]
    exact toInt_ofNat (literalValue_le (literal field))
  have year : (literalTerms fields).year.base.toInt = literalValue fields.year := base .year
  have month : (literalTerms fields).month.base.toInt = literalValue fields.month := base .month
  have day : (literalTerms fields).day.base.toInt = literalValue fields.day := base .day
  cases numbers : Date.ofNumbers? (literalValue fields.year) (literalValue fields.month)
      (literalValue fields.day) with
  | none =>
    have noDate := Date.ofNumbers?_eq_none_iff.1 numbers
    rw [← year, ← month, ← day] at noDate
    rw [dateFault, ← year, ← month, ← day, compose_eq, baseDate_of_not_isDate noDate]
    rfl
  | some date =>
    have base : baseDate (literalTerms fields) = .ok date := by
      rw [baseDate_eq_ok_iff, year, month, day]
      exact Date.ofNumbers?_eq_some_iff.1 numbers
    have stays : date.addDays? 0 = some date := by
      rw [Date.addDays?_eq, Day.addDays_zero, Date.ofDay?_toDay]
    have composed := compose_of_day base rfl rfl
    rwa [show (literalTerms fields).day.offset.toInt = 0 from rfl, stays] at composed

theorem resolve_literals_eq_ok_iff (hs : split template = .ok fields)
    (literal : ∀ field, IsLiteral field (fields.get field)) {date : Date} :
    resolve template anchor = .ok date ↔
      (∀ field, InRange field (literalValue (fields.get field))) ∧
        date.year = literalValue fields.year ∧ date.month = literalValue fields.month ∧
          date.day = literalValue fields.day := by
  have composed : compose (literalTerms fields) = .ok date ↔
      date.year = literalValue fields.year ∧ date.month = literalValue fields.month ∧
        date.day = literalValue fields.day := by
    rw [compose_literals literal, ← Date.ofNumbers?_eq_some_iff]
    split
    · next other named => rw [named, Except.ok.injEq, Option.some.injEq]
    · next named => simp [named]
  rw [resolve_eq_ok_iff]
  simp only [hs, terms_literals_eq_ok_iff literal, Except.ok.injEq, exists_and_left,
    exists_eq_left', and_assoc, exists_eq_left, composed]

/-- A template of literals names a date when the numbers are in range and form one. -/
theorem exists_resolve_literals_iff (hs : split template = .ok fields)
    (literal : ∀ field, IsLiteral field (fields.get field)) :
    (∃ date, resolve template anchor = .ok date) ↔
      (∀ field, InRange field (literalValue (fields.get field))) ∧ FormDate fields := by
  simp only [resolve_literals_eq_ok_iff hs literal, exists_and_left]
  refine and_congr_right fun _ => ⟨fun h => ?_, fun h => ⟨⟨_, _, _, h⟩, rfl, rfl, rfl⟩⟩
  obtain ⟨date, year, month, day⟩ := h
  rw [FormDate, ← year, ← month, ← day]
  exact date.isDate

/-- A template of literals fails at the first number out of range, or when all are in range and
still no date. -/
theorem resolve_literals_eq_error_iff (hs : split template = .ok fields)
    (literal : ∀ field, IsLiteral field (fields.get field)) {rejection : Rejection} :
    resolve template anchor = .error rejection ↔ rejection.template = template ∧
      ((∃ field, FirstOutOfRange fields field ∧
          rejection.fault = rangeFault field (literalValue (fields.get field))) ∨
        (∀ field, InRange field (literalValue (fields.get field))) ∧ ¬ FormDate fields ∧
          rejection.fault = dateFault fields) := by
  have composed {fault : Fault} : compose (literalTerms fields) = .error fault ↔
      ¬ FormDate fields ∧ fault = dateFault fields := by
    rw [compose_literals literal, FormDate, ← Date.ofNumbers?_eq_none_iff]
    split
    · next named => simp [named]
    · next named => simp [named, eq_comm]
  rw [resolve_eq_error_iff]
  simp only [hs, reduceCtorEq, false_or, Except.ok.injEq, exists_eq_left',
    firstFault_literals_iff literal, terms_literals_eq_ok_iff literal, and_assoc, exists_and_left,
    exists_eq_left, composed]

end Literals

end Almanac.Template
