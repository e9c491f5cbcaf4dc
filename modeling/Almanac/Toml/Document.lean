import Almanac.Toml.Statement

/-! Reading a TOML document.

The statements are taken in order. A key belongs to the table of the last header, or to the document
itself before the first. A byte order mark at the front of the text is skipped. -/
namespace Almanac.Toml

/-- The document so far and the path of the last header. -/
structure Draft where
  root : Nodes
  header : List String

/-- The draft after one more statement. -/
def Draft.add (draft : Draft) : Statement → Option Draft
  | .openTable path =>
    match path.getLast? with
    | some key =>
      (within (openHere key) path.dropLast draft.root).map fun root => ⟨root, path⟩
    | none => none
  | .openRow path =>
    match path.getLast? with
    | some key =>
      (within (openRowHere key) path.dropLast draft.root).map fun root => ⟨root, path⟩
    | none => none
  | .assign path value =>
    (within (assign · path value) draft.header draft.root).map fun root => ⟨root, draft.header⟩

/-- The table that statements describe. -/
def tableOf? (statements : List Statement) : Option Table :=
  (statements.foldlM Draft.add ⟨[], []⟩).map fun draft => valuesOf draft.root

/-- The table of a document, when the text is one. -/
def parse? (text : String) : Option Table := do
  let cs := match text.toList with
    | '\ufeff' :: cs => cs
    | cs => cs
  tableOf? (← statements? (cs.length + 1) cs)

end Almanac.Toml
