import Almanac.Proofs.Json

/-! The grammar of JSON.

`Writes` says which texts are values, whatever their form: blanks may stand around every mark, and a
character of a string may be written as it is, by a letter or by code points. A `Document` is a
value between blanks. -/
namespace Almanac.Json

/-- A JSON value. A number is the text that writes it. -/
inductive Value
  | null
  | boolean (b : Bool)
  | number (text : List Char)
  | string (s : String)
  | array (elements : List Value)
  | object (members : List (String × Value))

/-- Blanks and nothing else. -/
def Gap (cs : List Char) : Prop :=
  ∀ c ∈ cs, isBlank c = true

/-! ### Strings -/

/-- The number of digits of base sixteen. -/
def codeUnit? (digits : List Char) : Option Nat :=
  (digits.mapM hexValue?).map (·.foldl (fun code value => 16 * code + value) 0)

/-- The character of a surrogate pair. Half of one stands for no character. -/
def ofPair? (high low : List Char) : Option Char := do
  let first ← codeUnit? high
  let second ← codeUnit? low
  if 0xD800 ≤ first ∧ first < 0xDC00 ∧ 0xDC00 ≤ second ∧ second < 0xE000 then
    some (Char.ofNat (0x10000 + 0x400 * (first - 0xD800) + (second - 0xDC00)))
  else none

/-- A text that stands for a character inside a string. -/
inductive WritesChar : List Char → Char → Prop
  | plain {c} : c ≠ '"' → c ≠ '\\' → ¬ c.toNat < 0x20 → WritesChar [c] c
  | letter {letter c} : ofLetter? letter = some c → WritesChar ['\\', letter] c
  | code {a b c d char} : ofHex? [a, b, c, d] = some char →
      WritesChar ['\\', 'u', a, b, c, d] char
  | pair {a b c d e f g h char} : ofPair? [a, b, c, d] [e, f, g, h] = some char →
      WritesChar ['\\', 'u', a, b, c, d, '\\', 'u', e, f, g, h] char

/-- Texts that stand for characters, one after the other. -/
inductive WritesChars : List Char → List Char → Prop
  | nil : WritesChars [] []
  | cons {text c texts cs} : WritesChar text c → WritesChars texts cs →
      WritesChars (text ++ texts) (c :: cs)

/-- A string between its quotes. -/
def WritesString (text : List Char) (s : String) : Prop :=
  ∃ inside, text = '"' :: inside ++ ['"'] ∧ WritesChars inside s.toList

/-- A character of more than sixteen bits, by the two halves of a surrogate pair. -/
example : WritesString
    ['"', '\\', 'u', 'd', '8', '3', 'd', '\\', 'u', 'D', 'E', '0', '0', '"'] "😀" :=
  ⟨_, rfl, .cons (.pair (by decide)) .nil⟩

/-! ### Numbers -/

def Digits (cs : List Char) : Prop :=
  cs ≠ [] ∧ cs.all Char.isDigit = true

/-- Digits with no zero in front of others. -/
def Whole (cs : List Char) : Prop :=
  Digits cs ∧ (cs.head? = some '0' → cs = ['0'])

/-- Nothing, or a point and digits. -/
def Fraction (cs : List Char) : Prop :=
  cs = [] ∨ ∃ digits, cs = '.' :: digits ∧ Digits digits

/-- Nothing, or an `e` and digits, which may have a sign. -/
def Exponent (cs : List Char) : Prop :=
  cs = [] ∨ ∃ mark sign digits, cs = mark :: sign ++ digits ∧ (mark = 'e' ∨ mark = 'E') ∧
    (sign = [] ∨ sign = ['+'] ∨ sign = ['-']) ∧ Digits digits

/-- The text of a number. -/
def IsNumber (text : List Char) : Prop :=
  ∃ sign whole fraction exponent, text = sign ++ whole ++ fraction ++ exponent ∧
    (sign = [] ∨ sign = ['-']) ∧ Whole whole ∧ Fraction fraction ∧ Exponent exponent

/-! ### Values -/

/-- An element of an array, or the value of a member of an object, between blanks. -/
structure Element where
  before : List Char
  text : List Char
  after : List Char
  value : Value

namespace Element

def chars (e : Element) : List Char :=
  e.before ++ e.text ++ e.after

def Spaced (e : Element) : Prop :=
  Gap e.before ∧ Gap e.after

end Element

/-- A member of an object: its name between blanks, and its value. -/
structure Member where
  before : List Char
  nameText : List Char
  after : List Char
  name : String
  element : Element

namespace Member

def chars (m : Member) : List Char :=
  m.before ++ m.nameText ++ m.after ++ ':' :: m.element.chars

def value (m : Member) : String × Value :=
  (m.name, m.element.value)

/-- The name is written as a string, and nothing else stands between it and the marks but blanks. -/
def Sound (m : Member) : Prop :=
  Gap m.before ∧ Gap m.after ∧ WritesString m.nameText m.name ∧ m.element.Spaced

end Member

/-- A text without blanks around it that is a value. -/
inductive Writes : List Char → Value → Prop
  | null : Writes "null".toList .null
  | true_ : Writes "true".toList (.boolean true)
  | false_ : Writes "false".toList (.boolean false)
  | number {text} : IsNumber text → Writes text (.number text)
  | string {text s} : WritesString text s → Writes text (.string s)
  | emptyArray {blanks} : Gap blanks → Writes ('[' :: blanks ++ [']']) (.array [])
  | array {elements : List Element} : elements ≠ [] → (∀ e ∈ elements, e.Spaced) →
      (∀ e ∈ elements, Writes e.text e.value) →
      Writes ('[' :: joined [','] (elements.map Element.chars) ++ [']'])
        (.array (elements.map Element.value))
  | emptyObject {blanks} : Gap blanks → Writes ('\x7b' :: blanks ++ ['\x7d']) (.object [])
  | object {members : List Member} : members ≠ [] → (∀ m ∈ members, m.Sound) →
      (∀ m ∈ members, Writes m.element.text m.element.value) →
      Writes ('\x7b' :: joined [','] (members.map Member.chars) ++ ['\x7d'])
        (.object (members.map Member.value))

/-- A text that is a value, maybe between blanks. -/
def Document (text : List Char) (v : Value) : Prop :=
  ∃ before inside after, text = before ++ inside ++ after ∧ Gap before ∧ Gap after ∧
    Writes inside v

end Almanac.Json
