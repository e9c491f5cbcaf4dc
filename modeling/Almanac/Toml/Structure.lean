import Almanac.Toml.Value

/-! The tables of a TOML document while they are put together.

A table may come into being in three ways, and its `Origin` says in which, since that decides what
may still be added to it. A table opened by a header is complete once another header follows. A
table that a longer header implies may later be opened by a header of its own. A table made by a
key with points may only grow by such keys, and by headers of tables inside it. A value, an inline
table included, is closed. Every operation has no result when it would give a key a second
meaning. -/
namespace Almanac.Toml

inductive Origin
  /-- Opened by a header of its own. -/
  | opened
  /-- Named on the way to a table that a header opens. -/
  | implied
  /-- Named on the way to the last key of a key with points. -/
  | dotted
deriving DecidableEq

/-- What a key stands for so far. -/
inductive Node
  | value (value : Value)
  | table (origin : Origin) (entries : List (String × Node))
  /-- An array of tables, row by row. -/
  | rows (tables : List (List (String × Node)))

/-- The keys of a table under construction. -/
abbrev Nodes := List (String × Node)

/-! ### Changing a table -/

/-- A table with a new meaning for a key that it has. -/
def replace (key : String) (node : Node) (nodes : Nodes) : Nodes :=
  nodes.map fun (k, n) => if k = key then (k, node) else (k, n)

/-- A list with its last element changed; an empty list has none. -/
def changeLast {α : Type} (change : α → Option α) : List α → Option (List α)
  | [] => none
  | [x] => (change x).map ([·])
  | x :: xs => (changeLast change xs).map (x :: ·)

/-- Changes the table that the headers of a path lead to. A key without meaning becomes an implied
table, and a key that stands for an array of tables leads to its last row. -/
def within (change : Nodes → Option Nodes) : List String → Nodes → Option Nodes
  | [], nodes => change nodes
  | key :: path, nodes =>
    match nodes.lookup key with
    | none => (within change path []).map fun inner => nodes ++ [(key, .table .implied inner)]
    | some (.table origin inner) =>
      (within change path inner).map fun inner => replace key (.table origin inner) nodes
    | some (.rows tables) =>
      (changeLast (within change path) tables).map fun tables => replace key (.rows tables) nodes
    | some (.value _) => none

/-- Gives the last key of a path a value. Each key before it leads into a table that keys with
points may extend, and the table that holds the last key has to be such a table itself. -/
def assign (nodes : Nodes) : List String → Value → Option Nodes
  | [], _ => none
  | [key], value =>
    match nodes.lookup key with
    | none => some (nodes ++ [(key, .value value)])
    | some _ => none
  | key :: next :: path, value =>
    match nodes.lookup key with
    | none =>
      (assign [] (next :: path) value).map fun inner => nodes ++ [(key, .table .dotted inner)]
    | some (.table origin inner) =>
      if origin = .dotted ∨ origin = .implied ∧ path ≠ [] then
        (assign inner (next :: path) value).map fun inner =>
          replace key (.table origin inner) nodes
      else none
    | some (.rows tables) =>
      if path = [] then none
      else
        (changeLast (assign · (next :: path) value) tables).map fun tables =>
          replace key (.rows tables) nodes
    | some (.value _) => none

/-- Opens the table of a key. -/
def openHere (key : String) (nodes : Nodes) : Option Nodes :=
  match nodes.lookup key with
  | none => some (nodes ++ [(key, .table .opened [])])
  | some (.table .implied inner) => some (replace key (.table .opened inner) nodes)
  | some _ => none

/-- Opens another row of the array of tables of a key. -/
def openRowHere (key : String) (nodes : Nodes) : Option Nodes :=
  match nodes.lookup key with
  | none => some (nodes ++ [(key, .rows [[]])])
  | some (.rows tables) => some (replace key (.rows (tables ++ [[]])) nodes)
  | some _ => none

/-! ### The finished table -/

mutual

/-- The value that a key stands for in the end. -/
def Node.toValue : Node → Value
  | .value value => value
  | .table _ entries => .table (valuesOf entries)
  | .rows tables => .array (rowsOf tables)

/-- The finished table. -/
def valuesOf : List (String × Node) → Table
  | [] => []
  | (key, node) :: entries => (key, node.toValue) :: valuesOf entries

/-- The finished rows of an array of tables. -/
def rowsOf : List (List (String × Node)) → List Value
  | [] => []
  | entries :: tables => .table (valuesOf entries) :: rowsOf tables

end

end Almanac.Toml
