import Almanac.Command.Templates
import Almanac.Holiday.Json
import Almanac.Table

/-! What the commands print.

Each command has one report for the case that all is well and one for the case that something is
wrong, and never mixes the two: the first line of a failure says so and names the command, the next
gives the cause, and nothing else is printed. The holidays of a configuration are listed by date,
the templates of a command line in the order given. -/
namespace Almanac

/-- How a run ends. -/
inductive Status
  | success
  | failure
  /-- The command line cannot be understood. -/
  | usageError
deriving DecidableEq, Repr

def Status.code : Status → Nat
  | success => 0
  | failure => 1
  | usageError => 2

/-- What a command prints, and whether it succeeded. -/
structure Report where
  status : Status
  lines : List String
deriving DecidableEq, Repr

/-- The text of a report: its lines, each with the character that ends it. -/
def Report.text (r : Report) : String :=
  String.join (r.lines.map (· ++ "\n"))

namespace Report

/-- The report of a command that failed, in the words of the command and of the error. -/
def failure (command : String) (details : List String) : Report :=
  ⟨.failure, ("FAIL hld " ++ command) :: details⟩

/-- The report of a command that has no configuration, with the parser's words for what is wrong with
a document. Where the file was looked for is said only when that was not given. -/
def withoutConfig (parser : Config.DocumentError → String) (env : Environment)
    (config? : Option String) (command : String) (error : ConfigError) : Report :=
  failure command (error.message parser ::
    if config?.isSome then [] else ["looked for: " ++ Config.defaultPath env])

/-! ### Checking the configuration -/

/-- A label and a text on one line. -/
def labelled (label text : String) : String :=
  label ++ ": " ++ text

/-- What `doctor` says of a configuration that was read at a path. -/
def doctor (path : String) (c : Config) : Report :=
  let file := match c.logging.file? with
    | some file => [labelled "logging.file" file]
    | none => []
  ⟨.success,
    ["OK   hld doctor", labelled "path" path, labelled "anchor" c.anchor.text] ++
      c.summary.map (fun (label, text) => labelled label text) ++
      labelled "logging.level" c.logging.level :: file⟩

/-! ### Lists of holidays -/

/-- The cells of a holiday's row. -/
def row (h : Holiday) : List String :=
  [h.date.text, h.date.weekday.name, h.template]

/-- Holidays as a table, with their number below it. -/
def table (holidays : List Holiday) : List String :=
  if holidays.isEmpty then ["(no holidays configured)"]
  else
    Table.lines ["Date", "Weekday", "Template"] (holidays.map row) ++
      ["-- " ++ toString holidays.length ++ " holidays --"]

/-- Holidays as one JSON text. -/
def json (holidays : List Holiday) : List String :=
  [Json.pretty (holidays.map Holiday.record)]

/-- Holidays as lines of a template and its date. -/
def plain (holidays : List Holiday) : List String :=
  holidays.map fun h => h.template ++ " -> " ++ h.date.text

/-- What `holidays` says of a configuration. -/
def holidays (asJson : Bool) (c : Config) : Report :=
  ⟨.success, if asJson then json c.holidays.byDate else table c.holidays.byDate⟩

/-- What `resolve` says of templates: nothing but the first that names no date, if there is one. -/
def resolve (templates : List String) (asJson : Bool) (anchor : Date) : Report :=
  match (Command.resolveTemplates anchor templates).result with
  | .ok holidays => ⟨.success, if asJson then json holidays else plain holidays⟩
  | .error rejection => failure "resolve" [rejection.message]

end Report

end Almanac
