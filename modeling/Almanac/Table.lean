import Almanac.Text.Blank

/-! Tables drawn with lines.

Cells are put into columns, each as wide as its widest cell and with a blank at either side. A cell
may have several lines; the row is then as high as its highest cell, and lower cells are filled up
with blank lines. A line separates the head from the rows, and none separates the rows. -/
namespace Almanac.Table

/-- How many columns of the screen a character takes: two if it is the ideographic space. Every
other blank and every ASCII character takes one. -/
def charWidth (c : Char) : Nat :=
  if c = '\u3000' then 2 else 1

/-- How many columns of the screen a line takes. -/
def width (line : List Char) : Nat :=
  line.foldr (fun c columns => charWidth c + columns) 0

/-- A cell, line by line. -/
abbrev Cell := List (List Char)

/-- The cell of a text. -/
def cell (text : String) : Cell :=
  text.toList.splitOn '\n'

def Cell.width (c : Cell) : Nat :=
  (c.map Table.width).foldl max 0

/-- A line that is filled up with blanks, with a blank at either side. -/
def padded (columns : Nat) (line : List Char) : List Char :=
  ' ' :: line ++ List.replicate (columns - width line + 1) ' '

/-- The characters that open, divide and close a line of a table. -/
structure Frame where
  opening : Char
  divider : Char
  closing : Char

def top : Frame := ⟨'╭', '┬', '╮'⟩

def middle : Frame := ⟨'├', '┼', '┤'⟩

def bottom : Frame := ⟨'╰', '┴', '╯'⟩

def sides : Frame := ⟨'│', '│', '│'⟩

/-- Texts between the characters of a frame. -/
def Frame.line (f : Frame) (parts : List (List Char)) : List Char :=
  f.opening :: List.intercalate [f.divider] parts ++ [f.closing]

/-- A line across the table. -/
def Frame.rule (f : Frame) (widths : List Nat) : List Char :=
  f.line (widths.map fun w => List.replicate (w + 2) '─')

/-- The lines of a row. -/
def rowLines (widths : List Nat) (row : List Cell) : List (List Char) :=
  let height := (row.map List.length).foldl max 0
  (List.range height).map fun n =>
    sides.line (List.zipWith padded widths (row.map fun lines => (lines[n]?).getD []))

/-- The widths of the columns. -/
def widths (columns : Nat) (rows : List (List Cell)) : List Nat :=
  (List.range columns).map fun n =>
    (rows.map fun row => (row[n]?).elim 0 Cell.width).foldl max 0

/-- The lines of a table. -/
def lines (head : List String) (rows : List (List String)) : List String :=
  let head := head.map cell
  let rows := rows.map (·.map cell)
  let widths := widths head.length (head :: rows)
  let drawn := top.rule widths :: rowLines widths head ++ middle.rule widths ::
    rows.flatMap (rowLines widths) ++ [bottom.rule widths]
  drawn.map String.ofList

end Almanac.Table
