/-! Values of a TOML document.

A document is a table: keys with values, each key once. Tables and arrays hold values; the other
values are leaves. A floating point number is kept as the text that shows it, and a date or a time
as the text that was written, since nothing asks for more of them. A word may have the form of a
number and yet have no value: the number is too large, or the word denotes none. Such a word may
stand in a document as long as nobody asks for its value. -/
namespace Almanac.Toml

inductive NumberKind
  | integer
  | float
deriving DecidableEq, Repr

inductive Value
  | string (text : String)
  | integer (number : Int)
  /-- A floating point number, by its shortest text. -/
  | float (text : String)
  /-- A word with the form of a number and without a value. -/
  | overflowed (kind : NumberKind)
  | boolean (truth : Bool)
  /-- A date, a time or both, as written. -/
  | moment (text : String)
  | array (items : List Value)
  | table (entries : List (String × Value))
deriving Repr

/-- Keys and their values. -/
abbrev Table := List (String × Value)

/-! ### Integers of a width -/

/-- Whether a number is an integer of so many bits, one of which is the sign. -/
def isSigned (bits : Nat) (n : Int) : Bool :=
  -(Nat.pow 2 (bits - 1) : Int) ≤ n && n < (Nat.pow 2 (bits - 1) : Int)

/-- Whether a number is an integer of so many bits, none of which is a sign. -/
def isUnsigned (bits : Nat) (n : Int) : Bool :=
  0 ≤ n && n < (Nat.pow 2 bits : Int)

/-- Whether a number is an integer of so many bits, with or without a sign. -/
def hasWidth (bits : Nat) (n : Int) : Bool :=
  isSigned bits n || isUnsigned bits n

/-! ### Words without a value -/

mutual

/-- The kind of the first word without a value that a value holds. -/
def Value.overflow? : Value → Option NumberKind
  | .overflowed kind => some kind
  | .array items => overflowOfItems? items
  | .table entries => overflowOfEntries? entries
  | _ => none

/-- The kind of the first word without a value in a list. -/
def overflowOfItems? : List Value → Option NumberKind
  | [] => none
  | value :: values => value.overflow?.or (overflowOfItems? values)

/-- The kind of the first word without a value in a table. -/
def overflowOfEntries? : List (String × Value) → Option NumberKind
  | [] => none
  | (_, value) :: entries => value.overflow?.or (overflowOfEntries? entries)

end

end Almanac.Toml
