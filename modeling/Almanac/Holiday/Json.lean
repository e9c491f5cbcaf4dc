import Almanac.Calendar.DateText
import Almanac.Holiday.Basic
import Almanac.Json

/-! Holidays as JSON: one object for each, with the template as written and the text of the date. -/
namespace Almanac

/-- The members of a holiday's object. -/
def Holiday.record (h : Holiday) : Json.Record :=
  [("template", h.template), ("date", h.date.text)]

/-- The compact JSON text of a list of holidays, in the order given. -/
def Holidays.json (h : Holidays) : String :=
  Json.compact (h.entries.map Holiday.record)

end Almanac
