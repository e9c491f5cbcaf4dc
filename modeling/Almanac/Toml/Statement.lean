import Almanac.Toml.Moment
import Almanac.Toml.Quoted
import Almanac.Toml.Structure

/-! The statements of a TOML document.

A document is a sequence of lines, and each line that says something either opens a table, opens
another row of an array of tables, or gives a key a value. Arrays and inline tables may run over
several lines, end with a comma and hold comments, and they nest at most `deepest` levels. Only the
keys that points join have to stand on one line. -/
namespace Almanac.Toml

/-- What a line says. -/
inductive Statement
  /-- `[path]` -/
  | openTable (path : List String)
  /-- `[[path]]` -/
  | openRow (path : List String)
  /-- `path = value` -/
  | assign (path : List String) (value : Value)

/-- How many arrays and inline tables may stand one inside the other. -/
def deepest : Nat := 80

/-! ### Keys -/

/-- Whether a character may stand in a key without quotes. -/
def isKeyChar (c : Char) : Bool :=
  c.isAlphanum || c == '_' || c == '-'

/-- One key at the front of a text. -/
def key? (cs : List Char) : Option (String × List Char) :=
  match cs.takeWhile isKeyChar with
  | [] => shortString? cs
  | word => some (String.ofList word, cs.dropWhile isKeyChar)

/-- Keys joined by points at the front of a text, and the text after them and the blanks that
follow; `fuel` bounds their number. -/
def path? : Nat → List Char → Option (List String × List Char)
  | 0, _ => none
  | fuel + 1, cs => do
    let (key, rest) ← key? cs
    match skipBlanks rest with
    | '.' :: rest => (path? fuel (skipBlanks rest)).map (·.map (key :: ·) id)
    | rest => some ([key], rest)

/-- The keys at the front of a text. -/
def keys? (cs : List Char) : Option (List String × List Char) :=
  path? (cs.length + 1) cs

/-! ### Values -/

/-- Whether a character may stand in a value without quotes. -/
def isBareChar (c : Char) : Bool :=
  !" \t\r\n#,[]\x7b\x7d=".toList.contains c

/-- Whether a character may begin a part of a bare word, after blanks. -/
def beginsPart (c : Char) : Bool :=
  isBareChar c && !".\"'".toList.contains c

/-- The bare word at the front of a text. A word may have several parts with blanks between them,
as a date and a time have. -/
def bareWord : List Char → List Char × List Char
  | [] => ([], [])
  | c :: cs =>
    if isBareChar c || isBlank c && (skipBlanks cs).head?.any beginsPart then
      (bareWord cs).map (c :: ·) id
    else ([], c :: cs)

/-- The value of a bare word. -/
def ofWord? (word : List Char) : Option Value :=
  if word = "true".toList then some (.boolean true)
  else if word = "false".toList then some (.boolean false)
  else if isMoment word then some (.moment (String.ofList word))
  else number? word

/-- A value that holds no other at the front of a text. -/
def leaf? (cs : List Char) : Option (Value × List Char) :=
  match cs with
  | '"' :: _ => (string? cs).map (·.map .string id)
  | '\'' :: _ => (string? cs).map (·.map .string id)
  | _ => do
    let (word, rest) := bareWord cs
    some (← ofWord? word, rest)

/-- Parts separated by commas up to a closing bracket, and the text after it; `fuel` bounds the
number of parts. A comma may follow the last part. -/
def parts? {α : Type} (part? : List Char → Option (α × List Char)) (close : Char) :
    Nat → List Char → Option (List α × List Char)
  | 0, _ => none
  | fuel + 1, cs => do
    let cs ← skipSpace false cs
    match cs with
    | [] => none
    | c :: rest =>
      if c = close then some ([], rest)
      else
        let (part, rest) ← part? cs
        match ← skipSpace false rest with
        | [] => none
        | c :: rest =>
          if c = ',' then (parts? part? close fuel rest).map (·.map (part :: ·) id)
          else if c = close then some ([part], rest)
          else none

/-- A key and a value at the front of a text, given what may stand around the sign between them and
how to read the value. -/
def keyValue? (gap? : List Char → Option (List Char))
    (value? : List Char → Option (Value × List Char)) (cs : List Char) :
    Option ((List String × Value) × List Char) := do
  let (path, rest) ← keys? cs
  match ← gap? rest with
  | '=' :: rest =>
    let (value, rest) ← value? (← gap? rest)
    some ((path, value), rest)
  | _ => none

/-- A value at the front of a text, with at most `depth` levels of arrays and inline tables. -/
def value? : Nat → List Char → Option (Value × List Char)
  | depth + 1, '[' :: cs =>
    (parts? (value? depth) ']' (cs.length + 1) cs).map (·.map .array id)
  | depth + 1, '\x7b' :: cs => do
    let (entries, rest) ←
      parts? (keyValue? (skipSpace false) (value? depth)) '\x7d' (cs.length + 1) cs
    let table ← entries.foldlM (fun table (path, value) => assign table path value) []
    some (.table (valuesOf table), rest)
  | _, cs => leaf? cs

/-! ### Statements -/

/-- The statement at the front of a text. -/
def statement? : List Char → Option (Statement × List Char)
  | '[' :: '[' :: cs => do
    let (path, rest) ← keys? (skipBlanks cs)
    match rest with
    | ']' :: ']' :: rest => some (.openRow path, rest)
    | _ => none
  | '[' :: cs => do
    let (path, rest) ← keys? (skipBlanks cs)
    match rest with
    | ']' :: rest => some (.openTable path, rest)
    | _ => none
  | cs =>
    (keyValue? (some ∘ skipBlanks) (value? deepest) cs).map
      (·.map (fun (path, value) => .assign path value) id)

/-- The statements of a text, one to a line; `fuel` bounds their number. -/
def statements? : Nat → List Char → Option (List Statement)
  | 0, _ => none
  | fuel + 1, cs => do
    match ← skipSpace false cs with
    | [] => some []
    | cs =>
      let (statement, rest) ← statement? cs
      (statements? fuel (← skipLineEnd rest)).map (statement :: ·)

end Almanac.Toml
