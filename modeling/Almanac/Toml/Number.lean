import Almanac.Decimal.Shortest
import Almanac.Toml.Value

/-! Numbers of a TOML document.

Digits may be grouped by single underscores, each of which stands between two digits. A decimal
number has no zeros in front; an integer in base sixteen, eight or two begins with `0x`, `0o` or
`0b` and has no sign. An underscore may also follow the sign of a decimal number, and zeros may
follow that underscore.

A word may have the form of a number and no value. An integer of more than 128 bits is one, and so
is a floating point number that is too large, a base without digits, and a word that begins with
digits and has underscores where an integer in base sixteen could have them. -/
namespace Almanac.Toml

/-! ### Digits -/

/-- The digits of a text in which single underscores may stand between two digits. The flag tells
whether the character before the text is a digit. -/
def digitGroups (isDigit : Char → Bool) : Bool → List Char → Option (List Char)
  | afterDigit, [] => if afterDigit then some [] else none
  | true, '_' :: cs => digitGroups isDigit false cs
  | _, c :: cs => if isDigit c then (digitGroups isDigit true cs).map (c :: ·) else none

/-- The value of a digit of a base up to sixteen. -/
def digitValue (c : Char) : Nat :=
  if c.isDigit then c.toNat - '0'.toNat
  else if 'a' ≤ c ∧ c ≤ 'f' then c.toNat - 'a'.toNat + 10
  else c.toNat - 'A'.toNat + 10

def isHexDigit (c : Char) : Bool :=
  c.isDigit || ('a' ≤ c && c ≤ 'f') || ('A' ≤ c && c ≤ 'F')

def isOctalDigit (c : Char) : Bool :=
  '0' ≤ c && c ≤ '7'

def isBinaryDigit (c : Char) : Bool :=
  c == '0' || c == '1'

/-- The number that grouped digits of a base denote. -/
def natural? (base : Nat) (isDigit : Char → Bool) (cs : List Char) : Option Nat :=
  (digitGroups isDigit false cs).map (·.foldl (fun n c => base * n + digitValue c) 0)

/-- The digits of a decimal number, which has no zeros in front unless they are allowed. -/
def decimalDigits? (zeros : Bool) (cs : List Char) : Option (List Char) :=
  if !zeros ∧ cs.head? = some '0' ∧ cs.length ≠ 1 then none
  else digitGroups Char.isDigit false cs

/-! ### Signs -/

/-- A text split at its sign. -/
structure Signed where
  negative : Bool
  /-- Whether an underscore joins the sign to the rest. -/
  joined : Bool
  /-- What follows the sign and that underscore. -/
  rest : List Char

def Signed.ofText : List Char → Signed
  | '-' :: '_' :: cs => ⟨true, true, cs⟩
  | '+' :: '_' :: cs => ⟨false, true, cs⟩
  | '-' :: cs => ⟨true, false, cs⟩
  | '+' :: cs => ⟨false, false, cs⟩
  | cs => ⟨false, false, cs⟩

/-- A number with the sign of a text. -/
def Signed.apply (s : Signed) (n : Nat) : Int :=
  if s.negative then -n else n

/-! ### Integers -/

/-- The value of an integer, if it has one. -/
def ofInteger (n : Int) : Value :=
  if hasWidth 128 n then .integer n else .overflowed .integer

/-- An integer of a base, given by its digits. -/
def ofBase? (base : Nat) (isDigit : Char → Bool) (cs : List Char) : Option Value :=
  if cs.isEmpty then some (.overflowed .integer)
  else (natural? base isDigit cs).map fun n => ofInteger n

/-- Whether each underscore of a text stands between two digits of base sixteen. -/
def joinsDigits : List Char → Bool
  | [] => true
  | [c] => c != '_'
  | a :: b :: cs =>
    (a != '_' || isHexDigit b) && (b != '_' || isHexDigit a) && joinsDigits (b :: cs)

/-- Whether a text has the form of a decimal integer with underscores, one of which precedes the
text or follows its first digits. Characters away from the underscores may be any but the space. -/
def resemblesInteger (s : Signed) : Bool :=
  s.rest.head?.any isHexDigit && joinsDigits s.rest && !s.rest.contains ' ' &&
    (s.joined ||
      s.rest.head? != some '0' && (s.rest.dropWhile Char.isDigit).head? == some '_')

/-- A decimal integer. -/
def ofDecimal? (s : Signed) : Option Value :=
  match decimalDigits? s.joined s.rest with
  | some digits => some (ofInteger (s.apply (Nat.ofDigitChars 10 digits 0)))
  | none => if resemblesInteger s then some (.overflowed .integer) else none

/-! ### Floating point numbers -/

def isExponentMark (c : Char) : Bool :=
  c == 'e' || c == 'E'

/-- The exponent after an `e`. -/
def exponent? (cs : List Char) : Option Int :=
  let (negative, digits) := match cs with
    | '-' :: cs => (true, cs)
    | '+' :: cs => (false, cs)
    | cs => (false, cs)
  (digitGroups Char.isDigit false digits).map fun ds =>
    let n : Int := Nat.ofDigitChars 10 ds 0
    if negative then -n else n

/-- The number of a text without sign: digits, then a point and digits or an exponent or both. -/
def scaled? (zeros : Bool) (cs : List Char) : Option Decimal.Scaled := do
  let mantissa := cs.takeWhile (!isExponentMark ·)
  let exponent ← match cs.dropWhile (!isExponentMark ·) with
    | [] => some none
    | _ :: cs => (exponent? cs).map some
  let whole ← decimalDigits? zeros (mantissa.takeWhile (· != '.'))
  match mantissa.dropWhile (· != '.'), exponent with
  | [], none => none
  | [], some e => some ⟨Nat.ofDigitChars 10 whole 0, e⟩
  | _ :: cs, e => do
    let part ← digitGroups Char.isDigit false cs
    some ⟨Nat.ofDigitChars 10 (whole ++ part) 0, e.getD 0 - part.length⟩

/-- The text of a floating point number with the sign of a text. -/
def Signed.float (s : Signed) (text : List Char) : Value :=
  .float (String.ofList (if s.negative then '-' :: text else text))

/-- The value of a floating point number, if it has one. -/
def ofScaled (s : Signed) (number : Decimal.Scaled) : Value :=
  match Decimal.text? number with
  | some text => s.float text
  | none => .overflowed .float

/-! ### Any number -/

/-- A number with a sign or without one. After its first digits, a point or an `e` tells a floating
point number from an integer. -/
def ofSigned? (s : Signed) : Option Value :=
  if !s.joined ∧ s.rest = "nan".toList then some (.float "NaN")
  else if !s.joined ∧ s.rest = "inf".toList then some (s.float s.rest)
  else if s.rest.any fun c => c == '.' || isExponentMark c then
    (scaled? s.joined s.rest).map (ofScaled s)
  else ofDecimal? s

/-- The value of a word that has the form of a number. -/
def number? : List Char → Option Value
  | '0' :: 'x' :: cs => ofBase? 16 isHexDigit cs
  | '0' :: 'o' :: cs => ofBase? 8 isOctalDigit cs
  | '0' :: 'b' :: cs => ofBase? 2 isBinaryDigit cs
  | cs => ofSigned? (.ofText cs)

end Almanac.Toml
