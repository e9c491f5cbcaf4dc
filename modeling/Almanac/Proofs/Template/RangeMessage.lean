import Almanac.Template.Fault
import Mathlib

/-! The message of a number out of range.

Such a fault holds the number and a bound but not the range, and its message makes a condition of
the two: the number ought to be on the other side of the bound (`Condition.of`). A number breaks the
condition that is made of it and a bound other than itself (`Condition.not_holds_of`). The message
shows the field, the number and the condition, and can be read in one way only
(`message_outOfRange_eq_iff`). -/
namespace Almanac.Template

/-! ### Names and numbers -/

theorem not_mem_name (field : Field) : '\'' ∉ field.name.toList := by
  cases field <;> decide

theorem name_injective {field field' : Field} (h : field.name = field'.name) : field = field' := by
  cases field <;> cases field' <;> simp_all [Field.name]

theorem not_mem_repr {c : Char} (sign : c ≠ '-') (digit : c.isDigit = false) (n : Int) :
    c ∉ n.repr.toList := by
  have digits (n : Nat) : c ∉ n.repr.toList := fun member => by
    rw [Nat.toList_repr] at member
    cases digit.symm.trans (Nat.isDigit_of_mem_toDigits (by decide) (by decide) member)
  rw [Int.repr_eq_if]
  split
  · exact digits n.toNat
  · rw [String.toList_append]
    exact List.not_mem_cons_of_ne_of_not_mem sign (digits (-n).toNat)

/-! ### Conditions -/

/-- A condition on a number, as a message states it. -/
inductive Condition
  | atLeast (bound : Int)
  | atMost (bound : Int)
deriving DecidableEq, Repr

namespace Condition

def text : Condition → String
  | atLeast bound => ">= " ++ toString bound
  | atMost bound => "<= " ++ toString bound

/-- Whether a number meets the condition. -/
def Holds : Condition → Int → Prop
  | atLeast bound, n => bound ≤ n
  | atMost bound, n => n ≤ bound

/-- The condition that a message makes of a number and a bound. The bound itself is on the side of
the greater numbers. -/
def of (value bound : Int) : Condition :=
  if value < bound then atLeast bound else atMost bound

theorem of_cases (value bound : Int) :
    of value bound = atLeast bound ∨ of value bound = atMost bound := by
  unfold of
  split
  · exact .inl rfl
  · exact .inr rfl

theorem text_of (value bound : Int) : (of value bound).text = Fault.boundText value bound := by
  unfold of Fault.boundText
  split
  · rfl
  · rfl

theorem not_holds_of {value bound : Int} (h : value ≠ bound) : ¬ (of value bound).Holds value := by
  unfold of
  split
  · next below => exact Int.not_le.2 below
  · next above => exact fun within => h (Int.le_antisymm within (Int.not_lt.1 above))

theorem not_mem_text {c : Char} (sign : c ∉ ['<', '>', '=', ' ', '-']) (digit : c.isDigit = false)
    (condition : Condition) : c ∉ condition.text.toList := by
  simp only [List.mem_cons, not_or] at sign
  have number (n : Int) : c ∉ n.repr.toList := not_mem_repr sign.2.2.2.2.1 digit n
  cases condition with
  | atLeast bound => simp [text, String.toList_append, number bound, sign]
  | atMost bound => simp [text, String.toList_append, number bound, sign]

theorem text_injective {condition condition' : Condition} (h : condition.text = condition'.text) :
    condition = condition' := by
  have apart {m n : Int} : ">= " ++ toString m ≠ "<= " ++ toString n := fun same => by
    have heads := congrArg (·.toList.head?) same
    simp [String.toList_append] at heads
  cases condition with
  | atLeast m =>
    cases condition' with
    | atLeast n => rw [Int.repr_injective ((String.append_right_inj ">= ").1 h)]
    | atMost n => exact absurd h apart
  | atMost m =>
    cases condition' with
    | atLeast n => exact absurd h.symm apart
    | atMost n => rw [Int.repr_injective ((String.append_right_inj "<= ").1 h)]

end Condition

/-! ### Reports -/

/-- What a message says of a number out of range. -/
structure RangeReport where
  field : Field
  value : Int
  condition : Condition
deriving DecidableEq, Repr

namespace RangeReport

def text (report : RangeReport) : String :=
  "field '" ++ report.field.name ++ "' has invalid value (is=" ++ toString report.value ++
    ", must be " ++ report.condition.text ++ ")"

/-- The text is cut at the quote behind the name and at the comma behind the number. -/
theorem toList_text (report : RangeReport) : report.text.toList =
    "field '".toList ++ (report.field.name.toList ++ '\'' :: (" has invalid value (is=".toList ++
      (report.value.repr.toList ++ ',' :: (" must be ".toList ++
        (report.condition.text.toList ++ [')']))))) := by
  simp [text, String.toList_append]

/-- The quote behind the name and the comma behind the number are the last ones of the text. -/
theorem text_injective {report report' : RangeReport} (h : report.text = report'.text) :
    report = report' := by
  obtain ⟨field, value, condition⟩ := report
  have chars := congrArg String.toList h
  rw [toList_text, toList_text] at chars
  -- No name holds a quote and no number a comma, so the text is cut at the same places.
  have quote : '\'' ∉ " has invalid value (is=".toList ++ (value.repr.toList ++
      ',' :: (" must be ".toList ++ (condition.text.toList ++ [')']))) := by
    have number := not_mem_repr (c := '\'') (by decide) (by decide) value
    have text := condition.not_mem_text (c := '\'') (by decide) (by decide)
    simp [number, text]
  obtain ⟨name, -, chars⟩ := (List.append_cons_inj_of_notMem (not_mem_name field) quote).1
    (List.append_cancel_left chars)
  have comma : ',' ∉ " must be ".toList ++ (condition.text.toList ++ [')']) := by
    have text := condition.not_mem_text (c := ',') (by decide) (by decide)
    simp [text]
  obtain ⟨number, -, chars⟩ := (List.append_cons_inj_of_notMem
    (not_mem_repr (by decide) (by decide) value) comma).1 (List.append_cancel_left chars)
  have text := List.append_cancel_right (List.append_cancel_left chars)
  rw [name_injective (String.toList_injective name),
    Int.repr_injective (String.toList_injective number),
    Condition.text_injective (String.toList_injective text)]

end RangeReport

theorem message_outOfRange (field : Field) (value bound : Int) :
    (Fault.outOfRange field value bound).message =
      RangeReport.text ⟨field, value, .of value bound⟩ := by
  simp only [RangeReport.text, Condition.text_of]
  -- The message is evaluated: its equations for all faults take too long to make.
  rfl

theorem message_outOfRange_eq_iff {field : Field} {value bound : Int} {report : RangeReport} :
    (Fault.outOfRange field value bound).message = report.text ↔
      report = ⟨field, value, .of value bound⟩ := by
  rw [message_outOfRange]
  constructor
  · intro same
    exact (RangeReport.text_injective same).symm
  · rintro rfl
    rfl

end Almanac.Template
