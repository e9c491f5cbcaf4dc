/-! What stands between the parts of a TOML document: blanks, line ends and comments.

Blanks are the space and the tab. A line ends with a line feed, which a carriage return may precede;
a carriage return anywhere else, and any other control but the tab, is refused, in comments too. -/
namespace Almanac.Toml

def isBlank (c : Char) : Bool :=
  c == ' ' || c == '\t'

/-- Whether a character may stand in a comment or, unless it has a meaning there, in a string. -/
def isPrintable (c : Char) : Bool :=
  c == '\t' || (0x20 ≤ c.toNat && c.toNat != 0x7F)

/-- A text without the blanks at its front. -/
def skipBlanks (cs : List Char) : List Char :=
  cs.dropWhile isBlank

/-- Drops blanks, line ends and comments from the front of a text. The flag tells whether the text
begins inside a comment. -/
def skipSpace : Bool → List Char → Option (List Char)
  | _, [] => some []
  | _, '\n' :: cs => skipSpace false cs
  | _, '\r' :: '\n' :: cs => skipSpace false cs
  | true, c :: cs => if isPrintable c then skipSpace true cs else none
  | false, '#' :: cs => skipSpace true cs
  | false, c :: cs => if isBlank c then skipSpace false cs else some (c :: cs)

/-- Drops the rest of a comment, up to the line end. -/
def skipComment : List Char → Option (List Char)
  | [] => some []
  | '\n' :: cs => some ('\n' :: cs)
  | '\r' :: '\n' :: cs => some ('\n' :: cs)
  | c :: cs => if isPrintable c then skipComment cs else none

/-- Drops what may stand between the last part of a line and the next line: blanks, a comment, and
the line end, which the end of the document replaces. -/
def skipLineEnd (cs : List Char) : Option (List Char) := do
  let rest ← match skipBlanks cs with
    | '#' :: cs => skipComment cs
    | cs => some cs
  match rest with
  | [] => some []
  | '\n' :: cs => some cs
  | '\r' :: '\n' :: cs => some cs
  | _ => none

end Almanac.Toml
