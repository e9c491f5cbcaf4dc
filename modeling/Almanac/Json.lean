import Almanac.Text.Quoted

/-! JSON text of a list of records.

A record is an object whose members are strings, in order. The compact form has no blanks; the
pretty form puts every object and every member on a line of its own, indented by two blanks for
each level. A string is written as it is, save that quotes and backslashes are escaped, and
controls too: five of them by a letter, the others by their code point in four digits of base
sixteen. -/
namespace Almanac.Json

/-- An object whose members are strings, in the order of writing. -/
abbrev Record := List (String × String)

/-- One character inside a string. -/
def escape (c : Char) : List Char :=
  if c = '"' then ['\\', '"']
  else if c = '\\' then ['\\', '\\']
  else if c = '\x08' then ['\\', 'b']
  else if c = '\t' then ['\\', 't']
  else if c = '\n' then ['\\', 'n']
  else if c = '\x0c' then ['\\', 'f']
  else if c = '\r' then ['\\', 'r']
  else if c.toNat < 0x20 then
    let digits := Text.hexDigits c.toNat
    ['\\', 'u'] ++ List.replicate (4 - digits.length) '0' ++ digits
  else [c]

/-- A string between its quotes. -/
def string (s : String) : List Char :=
  '"' :: s.toList.flatMap escape ++ ['"']

/-- Texts with a separator between each two. -/
def joined (separator : List Char) : List (List Char) → List Char :=
  List.intercalate separator

/-- A record without blanks. -/
def compactRecord (r : Record) : List Char :=
  '\x7b' :: joined [','] (r.map fun (key, value) => string key ++ ':' :: string value) ++ ['\x7d']

/-- A list of records without blanks. -/
def compact (rs : List Record) : String :=
  String.ofList ('[' :: joined [','] (rs.map compactRecord) ++ [']'])

/-- The start of a new line at a level. -/
def newLine (level : Nat) : List Char :=
  '\n' :: List.replicate (2 * level) ' '

/-- The parts of a list or an object at a level, each on lines of its own. -/
def block (level : Nat) (first last : Char) (parts : List (List Char)) : List Char :=
  if parts.isEmpty then [first, last]
  else first :: newLine (level + 1) ++ joined (',' :: newLine (level + 1)) parts ++
    newLine level ++ [last]

/-- A record over several lines, as an element of a list. -/
def prettyRecord (r : Record) : List Char :=
  block 1 '\x7b' '\x7d' (r.map fun (key, value) => string key ++ ':' :: ' ' :: string value)

/-- A list of records over several lines. -/
def pretty (rs : List Record) : String :=
  String.ofList (block 0 '[' ']' (rs.map prettyRecord))

end Almanac.Json
