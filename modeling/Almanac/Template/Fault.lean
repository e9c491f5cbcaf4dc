import Almanac.Template.Field
import Almanac.Text.Digits

/-! What can be wrong with a template.

A `Fault` is the cause alone. A `Rejection` joins it with the template as written, and its message
says both. A fault that lies in one field knows the field (`Fault.field?`). -/
namespace Almanac

inductive Fault
  /-- A `<` inside an open region. -/
  | nestedBracket
  /-- A `>` where no region is open. -/
  | unmatchedBracket
  /-- A `<` after the region of the same field was closed. -/
  | unexpectedBracket
  /-- The template does not have three fields. -/
  | fieldCount (found : Nat)
  /-- A field holds blanks only. -/
  | blankField (field : Field)
  /-- A field is neither a number of its width nor begins with its keyword. -/
  | invalidValue (field : Field) (text : String)
  /-- A number lies outside the field's range, on the far side of `bound`. -/
  | outOfRange (field : Field) (value bound : Int)
  /-- A second sign in an offset. -/
  | unexpectedOperator (field : Field) (operator : Char)
  /-- A field begins with its keyword and goes on with something else. -/
  | wrongKeyword (field : Field) (found : String)
  /-- A sign with no number after it. -/
  | blankOffset (field : Field)
  /-- A text where a number of supported size should stand. -/
  | notANumber (field : Field) (text : String)
  /-- The three values are no day of the calendar. -/
  | noSuchDate (year month day : Int)
  /-- An offset leaves the supported years. -/
  | beyondCalendar
deriving DecidableEq, Repr

namespace Fault

/-- The field a fault lies in, when it lies in one. -/
def field? : Fault → Option Field
  | blankField field | invalidValue field _ | outOfRange field _ _ | unexpectedOperator field _
  | wrongKeyword field _ | blankOffset field | notANumber field _ => some field
  | nestedBracket | unmatchedBracket | unexpectedBracket | fieldCount _ | noSuchDate _ _ _
  | beyondCalendar => none

/-- The side of a bound on which the values of a field lie, as a message says it. -/
def boundText (value bound : Int) : String :=
  if value < bound then s!">= {bound}" else s!"<= {bound}"

/-- What a fault says of itself. -/
def message : Fault → String
  | nestedBracket => "nested brackets"
  | unmatchedBracket => "unmatched '>'"
  | unexpectedBracket => "unexpected '<' (only one bracket region per field)"
  | fieldCount found => s!"expected 3 fields separated by '-', found {found}"
  | blankField field => "field '" ++ field.name ++ "' cannot be blank"
  | invalidValue field text => "field '" ++ field.name ++ "' has invalid value '" ++ text ++ "'"
  | outOfRange field value bound =>
    "field '" ++ field.name ++ "' has invalid value (is=" ++ toString value ++ ", must be " ++
      boundText value bound ++ ")"
  | unexpectedOperator field operator =>
    "unexpected '" ++ operator.toString ++ "' in field '" ++ field.name ++ "'"
  | wrongKeyword field found =>
    "field '" ++ field.name ++ "' expects keyword " ++ field.keyword ++ " but found '" ++ found ++
      "'"
  | blankOffset field => "offset value in field '" ++ field.name ++ "' cannot be blank"
  | notANumber field text =>
    "invalid integer value in field '" ++ field.name ++ "': '" ++ text ++ "'"
  | noSuchDate year month day =>
    String.ofList (Text.signed 4 year ++ '-' :: Text.signed 2 month ++ '-' :: Text.signed 2 day) ++
      " is not a valid calendar date"
  | beyondCalendar => "offsets move the date out of the supported range"

end Fault

/-- A template that names no date, and why. -/
structure Rejection where
  /-- The template as written. -/
  template : String
  fault : Fault
deriving DecidableEq, Repr

namespace Rejection

/-- The field the fault lies in, when it lies in one. -/
def field? (r : Rejection) : Option Field :=
  r.fault.field?

def message (r : Rejection) : String :=
  "invalid holiday template '" ++ r.template ++ "': " ++ r.fault.message

end Rejection

end Almanac
