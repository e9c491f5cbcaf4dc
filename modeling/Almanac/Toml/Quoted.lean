import Almanac.Toml.Blank
import Almanac.Toml.Number

/-! Strings of a TOML document.

A string stands between single or double quotes, or between three of them, which lets it run over
several lines; the line end right after three quotes is not part of it. Between double quotes a
backslash begins an escape, and between three of them a backslash at the end of a line drops the
line end and all blanks and line ends that follow. One or two quotes right before the three that
close a string belong to the string. Every function takes the text after the opening quotes and
returns the string and the text after the closing ones. -/
namespace Almanac.Toml

/-! ### Escapes -/

/-- The character with the code point that some hexadecimal digits denote, if it is one. -/
def codePoint? (digits : List Char) : Option Char := do
  let n ← natural? 16 isHexDigit (← if digits.contains '_' then none else some digits)
  if h : n.isValidChar then some (Char.ofNatAux n h) else none

/-- The character of an escape, given after its backslash, and how many characters the escape has.
-/
def escape? : List Char → Option (Char × Nat)
  | 'b' :: _ => some ('\x08', 1)
  | 't' :: _ => some ('\t', 1)
  | 'n' :: _ => some ('\n', 1)
  | 'f' :: _ => some ('\x0c', 1)
  | 'r' :: _ => some ('\r', 1)
  | 'e' :: _ => some ('\x1b', 1)
  | '"' :: _ => some ('"', 1)
  | '\\' :: _ => some ('\\', 1)
  | 'x' :: cs => (fixed? 2 cs).map (·, 3)
  | 'u' :: cs => (fixed? 4 cs).map (·, 5)
  | 'U' :: cs => (fixed? 8 cs).map (·, 9)
  | _ => none
where
  /-- The code point in exactly `count` digits. -/
  fixed? (count : Nat) (cs : List Char) : Option Char :=
    if (cs.take count).length = count then codePoint? (cs.take count) else none

/-- A text without the blanks and line ends at its front. -/
def skipLines : List Char → List Char
  | '\n' :: cs => skipLines cs
  | '\r' :: '\n' :: cs => skipLines cs
  | c :: cs => if isBlank c then skipLines cs else c :: cs
  | [] => []

/-- A backslash at the end of a line, given after the backslash: the text after the line end and all
blanks and line ends that follow it. -/
def joinedLines? (cs : List Char) : Option (List Char) :=
  match skipBlanks cs with
  | '\n' :: cs => some (skipLines cs)
  | '\r' :: '\n' :: cs => some (skipLines cs)
  | _ => none

/-! ### Strings on one line -/

/-- A string between single quotes. -/
def literal? : List Char → Option (List Char × List Char)
  | [] => none
  | '\'' :: rest => some ([], rest)
  | c :: cs => if isPrintable c then (literal? cs).map (·.map (c :: ·) id) else none

/-- A string between double quotes; `fuel` bounds the number of its characters. -/
def basic? : Nat → List Char → Option (List Char × List Char)
  | 0, _ => none
  | _, [] => none
  | _, '"' :: rest => some ([], rest)
  | fuel + 1, '\\' :: cs => do
    let (c, size) ← escape? cs
    (basic? fuel (cs.drop size)).map (·.map (c :: ·) id)
  | fuel + 1, c :: cs => if isPrintable c then (basic? fuel cs).map (·.map (c :: ·) id) else none

/-! ### Strings over several lines -/

/-- A text without a line end at its front. -/
def skipFirstLineEnd : List Char → List Char
  | '\n' :: cs => cs
  | '\r' :: '\n' :: cs => cs
  | cs => cs

/-- What follows the first three of several quotes: the quotes that belong to the string, two at
most, and the rest. -/
def closing (quote : Char) (cs : List Char) : List Char × List Char :=
  let extra := (cs.take 2).takeWhile (· == quote)
  (extra, cs.drop extra.length)

/-- A string between three single quotes, after the line end at its front. -/
def longLiteral? : List Char → Option (List Char × List Char)
  | [] => none
  | '\'' :: '\'' :: '\'' :: cs => some (closing '\'' cs)
  | '\r' :: '\n' :: cs => (longLiteral? cs).map (·.map ('\r' :: '\n' :: ·) id)
  | c :: cs =>
    if isPrintable c || c == '\n' then (longLiteral? cs).map (·.map (c :: ·) id) else none

/-- A string between three double quotes, after the line end at its front; `fuel` bounds the number
of its characters. -/
def longBasic? : Nat → List Char → Option (List Char × List Char)
  | 0, _ => none
  | _, [] => none
  | _, '"' :: '"' :: '"' :: cs => some (closing '"' cs)
  | fuel + 1, '\\' :: cs =>
    match joinedLines? cs with
    | some rest => longBasic? fuel rest
    | none => do
      let (c, size) ← escape? cs
      (longBasic? fuel (cs.drop size)).map (·.map (c :: ·) id)
  | fuel + 1, '\r' :: '\n' :: cs => (longBasic? fuel cs).map (·.map ('\r' :: '\n' :: ·) id)
  | fuel + 1, c :: cs =>
    if isPrintable c || c == '\n' then (longBasic? fuel cs).map (·.map (c :: ·) id) else none

/-! ### Any string -/

/-- A string on one line at the front of a text, quotes included. -/
def shortString? : List Char → Option (String × List Char)
  | '"' :: cs => (basic? (cs.length + 1) cs).map (·.map String.ofList id)
  | '\'' :: cs => (literal? cs).map (·.map String.ofList id)
  | _ => none

/-- A string at the front of a text, quotes included. -/
def string? : List Char → Option (String × List Char)
  | '"' :: '"' :: '"' :: cs =>
    (longBasic? (cs.length + 1) (skipFirstLineEnd cs)).map (·.map String.ofList id)
  | '\'' :: '\'' :: '\'' :: cs =>
    (longLiteral? (skipFirstLineEnd cs)).map (·.map String.ofList id)
  | cs => shortString? cs

end Almanac.Toml
