import Almanac.Template.Step

/-! The pieces of a template.

A `-` separates two fields unless it stands in a region, which `<` opens and `>` closes; each field
may have one region, so that a field can hold a `-` of its own. `cut` walks the template from left
to right, stops at the first bracket that is out of place, and otherwise yields the text of every
field without its brackets. A region that is still open at the end reaches to the end. A last piece
in which nothing but brackets was written does not count as a field (`dropEmptyLast`). -/
namespace Almanac.Template

/-- Where a character stands with respect to the region of its field. -/
inductive Region
  /-- Before the region: one may still be opened. -/
  | before
  | inside
  /-- After the region: no other may be opened in this field. -/
  | after
deriving DecidableEq, Repr

/-- A character put in front of the first piece. -/
def addToFirst (c : Char) : List (List Char) → List (List Char)
  | [] => [[c]]
  | piece :: pieces => (c :: piece) :: pieces

/-- The text of every field, from a place in the template on: the rest of the field at that place
comes first. -/
def cut : Region → List Char → Except Fault (List (List Char))
  | _, [] => .ok [[]]
  | .before, '<' :: cs => cut .inside cs
  | .inside, '<' :: _ => .error .nestedBracket
  | .after, '<' :: _ => .error .unexpectedBracket
  | .inside, '>' :: cs => cut .after cs
  | .before, '>' :: _ => .error .unmatchedBracket
  | .after, '>' :: _ => .error .unmatchedBracket
  | .inside, c :: cs => (cut .inside cs).map (addToFirst c)
  | region, c :: cs =>
    if c = '-' then (cut .before cs).map ([] :: ·) else (cut region cs).map (addToFirst c)

/-- The pieces without the last one when that one is empty. -/
def dropEmptyLast (pieces : List (List Char)) : List (List Char) :=
  if pieces.getLast? = some [] then pieces.dropLast else pieces

/-- The fields of a template, trimmed, whatever their number. -/
def pieces (cs : List Char) : Except Fault (List (List Char)) :=
  (cut .before cs).map fun found => (dropEmptyLast found).map Text.trim

/-- The three fields of a template, trimmed. How the template is cut is said before its fields are
counted. -/
def Trace.split (template : String) : Traced Step Fault (Triple String) := do
  let found ← .silent (pieces template.toList)
  .say (.cut (found.map String.ofList))
  match Triple.ofList? found with
  | some fields => pure (fields.map String.ofList)
  | none => .silent (.error (.fieldCount found.length))

def split (template : String) : Except Fault (Triple String) :=
  (Trace.split template).result

theorem split_eq (template : String) : split template =
    pieces template.toList >>= fun found =>
      match Triple.ofList? found with
      | some fields => .ok (fields.map String.ofList)
      | none => .error (.fieldCount found.length) := by
  rw [split, Trace.split, Traced.result_bind]
  refine congrArg (pieces template.toList >>= ·) (funext fun found => ?_)
  rw [Traced.result_bind]
  cases Triple.ofList? found with
  | none => rfl
  | some fields => rfl

end Almanac.Template
