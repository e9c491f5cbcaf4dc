import Almanac.Calendar.Date
import Almanac.Text.Blank
import Almanac.Text.Digits

/-! The text of a date: year, month and day joined by `-`.

Years 0 to 9999 are written with four digits; every other year is written with its sign and at least
four digits, since a sign is what tells a reader that more digits may come. The reader
(`Date.ofText?`) follows the same rule: without a sign it takes at most four digits for the year. It
is more generous than the writer in three ways: a number may have fewer digits, blanks may stand in
front of each number, and blanks around the whole text are dropped. -/
namespace Almanac.Date

/-! ### Writing -/

/-- The text of a year. -/
def yearText (year : Int) : List Char :=
  if 0 ≤ year ∧ year ≤ 9999 then Text.padded 4 year.natAbs
  else (if year < 0 then '-' else '+') :: Text.padded 4 year.natAbs

/-- The text of a date, by characters. -/
def chars (d : Date) : List Char :=
  yearText d.year ++ '-' :: Text.padded 2 d.month.natAbs ++ '-' :: Text.padded 2 d.day.natAbs

/-- The text of a date. -/
def text (d : Date) : String :=
  String.ofList d.chars

/-! ### Reading -/

/-- The digits at the front of a text, `most` of them at most, and what follows them. -/
def digitRun (most : Nat) (cs : List Char) : List Char × List Char :=
  let digits := (cs.take most).takeWhile Char.isDigit
  (digits, cs.drop digits.length)

/-- A number of at most `most` digits at the front of a text, and what follows it. -/
def readNumber (most : Nat) (cs : List Char) : Option (Int × List Char) :=
  let (digits, rest) := digitRun most cs
  (Text.number? digits).map fun n => ((n : Int), rest)

/-- A year at the front of a text: four digits at most, or a sign and any number of digits. -/
def readYear (cs : List Char) : Option (Int × List Char) :=
  match cs with
  | '+' :: cs => readNumber cs.length cs
  | '-' :: cs => (readNumber cs.length cs).map fun (n, rest) => (-n, rest)
  | cs => readNumber 4 cs

/-- The text after a `-` at its front, blanks after the `-` dropped. -/
def skipDash : List Char → Option (List Char)
  | '-' :: cs => some (Text.trimStart cs)
  | _ => none

/-- The date that a text, by characters, names. -/
def ofChars? (cs : List Char) : Option Date := do
  let (year, cs) ← readYear (Text.trim cs)
  let (month, cs) ← readNumber 2 (← skipDash cs)
  let (day, cs) ← readNumber 2 (← skipDash cs)
  if cs.isEmpty then ofNumbers? year month day else none

/-- The date that a text names. -/
def ofText? (s : String) : Option Date :=
  ofChars? s.toList

end Almanac.Date
