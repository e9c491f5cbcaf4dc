import Almanac.Calendar.Date
import Almanac.Template.Fault
import Almanac.Text.Blank
import Almanac.Text.UpperCase

/-! What a field says.

A field is an `Entry`: a literal, which is a number of the field's width, or symbolic, which is the
field's keyword with an optional signed offset. `Entry.ofText` tells the two apart by the look of
the text, and `Entry.term` finds what the entry stands for: a base value, taken from the anchor if
the entry is symbolic, and the offset to apply to it afterwards. -/
namespace Almanac

/-- The value of a field on a date. -/
def Date.valueOf (d : Date) : Field → Int
  | .year => d.year
  | .month => d.month
  | .day => d.day

namespace Template

/-- A field told apart but not yet evaluated. -/
inductive Entry
  /-- Digits, as written. -/
  | literal (text : String)
  /-- The keyword and what follows it, in upper case. -/
  | symbolic (text : String)
deriving DecidableEq, Repr

/-- What a field contributes to the date: a base value and the offset applied once the three bases
form a date, both numbers of 32 bits. -/
@[ext] structure Term where
  field : Field
  base : Int32
  offset : Int32
deriving DecidableEq, Repr

/-- The largest number that an offset or a literal may be: the largest of 32 bits. -/
def largestNumber : Nat := 2147483647

/-- Whether a character is the sign of an offset. -/
def isOperator (c : Char) : Bool :=
  c == '+' || c == '-'

/-- Tells a literal from a symbolic entry. Every text with as many digits as the field is wide is a
literal, whatever its value; any other text is symbolic if it begins with the keyword once it is in
upper case. -/
def Entry.ofText (field : Field) (text : String) : Except Fault Entry :=
  let cs := text.toList
  let capitals := Text.upper cs
  if (Text.trim cs).isEmpty then .error (.blankField field)
  else if cs.length = field.width ∧ cs.all Char.isDigit then .ok (.literal text)
  else if field.keyword.toList.isPrefixOf capitals then .ok (.symbolic (String.ofList capitals))
  else .error (.invalidValue field text)

/-- The number that a text of digits denotes, if it is not too large. -/
def readNumber (field : Field) (cs : List Char) : Except Fault Int32 :=
  match Text.number? cs with
  | some n =>
    if n ≤ largestNumber then .ok (.ofNat n) else .error (.notANumber field (String.ofList cs))
  | none => .error (.notANumber field (String.ofList cs))

/-- The value of a literal, which has to lie in the field's range. -/
def readLiteral (field : Field) (cs : List Char) : Except Fault Int32 := do
  let value ← readNumber field cs
  if value < 1 then .error (.outOfRange field value.toInt 1)
  else if field.largest < value.toInt then .error (.outOfRange field value.toInt field.largest)
  else .ok value

/-- The keyword of a field, blanks around it aside. -/
def readKeyword (field : Field) (cs : List Char) : Except Fault Unit :=
  let word := String.ofList (Text.trim cs)
  if word = field.keyword then .ok () else .error (.wrongKeyword field word)

/-- The offset of a symbolic entry: nothing after the keyword is no offset. A second sign is
reported before a missing number, and that before a wrong keyword. -/
def readOffset (field : Field) (cs : List Char) : Except Fault Int32 :=
  match cs.dropWhile (!isOperator ·) with
  | [] => (readKeyword field cs).map fun _ => 0
  | operator :: amount =>
    match amount.find? isOperator with
    | some second => .error (.unexpectedOperator field second)
    | none =>
      if (Text.trim amount).isEmpty then .error (.blankOffset field)
      else do
        readKeyword field (cs.takeWhile (!isOperator ·))
        let value ← readNumber field (Text.trim amount)
        .ok (if operator = '-' then -value else value)

/-- What an entry stands for, seen from the anchor. -/
def Entry.term (field : Field) (anchor : Date) : Entry → Except Fault Term
  | .literal text => (readLiteral field text.toList).map (⟨field, ·, 0⟩)
  | .symbolic text =>
    (readOffset field text.toList).map (⟨field, .ofInt (anchor.valueOf field), ·⟩)

/-- What a field stands for, seen from the anchor. -/
def Term.ofText (field : Field) (anchor : Date) (text : String) : Except Fault Term := do
  (← Entry.ofText field text).term field anchor

end Template

end Almanac
