import Almanac.Ascending
import Almanac.Template.Resolve

/-! Holidays: templates and the dates they name.

A `Holidays` list keeps the order in which the templates were given, repetitions included; every
other order is a view of it. All templates of a list are resolved against one anchor, and the first
that names no date fails the whole list. -/
namespace Almanac

/-- A template as written, and the date it names. -/
structure Holiday where
  template : String
  date : Date
deriving DecidableEq

/-- The holiday that a template names, seen from the anchor. -/
def Holiday.resolve (template : String) (anchor : Date) : Except Rejection Holiday :=
  (Template.resolve template anchor).map (⟨template, ·⟩)

/-- The first template of a list that names no date: its place, from 0, and what is wrong with it.
-/
structure HolidayError where
  index : Nat
  rejection : Rejection
deriving DecidableEq, Repr

def HolidayError.message (e : HolidayError) : String :=
  "holiday #" ++ toString (e.index + 1) ++ " is invalid: " ++ e.rejection.message

/-- Holidays in the order given. -/
structure Holidays where
  entries : List Holiday
deriving DecidableEq

namespace Holidays

/-- The holidays of a list of templates whose first has the place `index`. -/
def resolveFrom (anchor : Date) : Nat → List String → Except HolidayError (List Holiday)
  | _, [] => .ok []
  | index, template :: templates => do
    let holiday ← (Holiday.resolve template anchor).mapError (⟨index, ·⟩)
    let rest ← resolveFrom anchor (index + 1) templates
    .ok (holiday :: rest)

/-- The holidays that a list of templates names, seen from the anchor. -/
def resolve (templates : List String) (anchor : Date) : Except HolidayError Holidays :=
  (resolveFrom anchor 0 templates).map (⟨·⟩)

/-- The templates in the order given. -/
def templates (h : Holidays) : List String :=
  h.entries.map (·.template)

/-- How many holidays there are, repetitions counted. -/
def size (h : Holidays) : Nat :=
  h.entries.length

def isEmpty (h : Holidays) : Bool :=
  h.entries.isEmpty

/-- Whether a date is a holiday. -/
def contains (h : Holidays) (date : Date) : Bool :=
  h.entries.any (·.date == date)

/-- The distinct dates in the order of the calendar. -/
def dates (h : Holidays) : List Date :=
  ascending (h.entries.map (·.date))

/-- The holidays by date; those of one date stay in the order given. -/
def byDate (h : Holidays) : List Holiday :=
  h.entries.mergeSort fun a b => decide (a.date ≤ b.date)

end Holidays

end Almanac
