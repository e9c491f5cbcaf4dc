import Almanac.Template.Entry
import Almanac.Traced

/-! The steps of resolving a template. Each is said once it is done, with what it has led to. -/
namespace Almanac.Template

inductive Step
  /-- The template is cut into fields, whatever their number. -/
  | cut (fields : List String)
  /-- A field is read. -/
  | read (term : Term)
  /-- The bases of the terms form a date. -/
  | composed (base : Date)
  /-- The offsets of the terms lead from there to a date. -/
  | moved (date : Date)
  /-- The template names a date. -/
  | named (template : String) (anchor date : Date)
deriving DecidableEq

def Step.message : Step → String
  | cut _ => "split template into segments"
  | read _ => "resolved field"
  | composed _ => "composed base date"
  | moved _ => "applied offsets"
  | named .. => "resolved holiday template"

end Almanac.Template
