import Almanac.Calendar.DateText
import Almanac.Calendar.Weekday
import Almanac.Config.Expansion
import Almanac.Config.Location
import Almanac.Config.Settings
import Almanac.FileSystem
import Almanac.Holiday.Basic
import Almanac.OffDuty.Hours
import Almanac.Toml.Document

/-! Loading the configuration.

The settings of the file are given their meaning against the anchor: weekdays, hours, dates, and
the path of the log file. Whatever is wrong anywhere fails the whole load, and of several things
that are wrong the first in the order of this file is reported: the file, the document, its shape,
the version, the working days, the working hours, the holidays, the path of the log file. -/
namespace Almanac

inductive ConfigError
  | notFound (path : String)
  | unreadable (path reason : String)
  /-- The file is no TOML document. -/
  | malformed (path : String)
  | wrongShape (path : String) (error : Config.ShapeError)
  | badVersion (version : Nat)
  | noWorkDays
  | invalidWorkDay (name : String)
  | noWorkHours
  | invalidWorkHours (text : String)
  | invalidHoliday (path : String) (error : HolidayError)
  /-- The path of the log file asks for a variable that is not set. -/
  | unsetVariable (path name : String)
deriving DecidableEq, Repr

/-- What the parser finds wrong with a document. -/
inductive Config.DocumentError
  | malformed
  | wrongShape (error : ShapeError)
deriving DecidableEq, Repr

/-- What an error says of itself. What is wrong with a document is said in the words of the parser,
which quote the document. -/
def ConfigError.message (parser : Config.DocumentError → String) : ConfigError → String
  | notFound path => "config file not found at " ++ path
  | unreadable path reason => "failed to read config file " ++ path ++ ": " ++ reason
  | malformed path => "failed to parse TOML in " ++ path ++ ": " ++ parser .malformed
  | wrongShape path error => "failed to parse TOML in " ++ path ++ ": " ++ parser (.wrongShape error)
  | badVersion version => "version " ++ toString version ++ " is unsupported (expected 1)"
  | noWorkDays => "no work days defined in config"
  | invalidWorkDay name => "invalid work day '" ++ name ++ "'"
  | noWorkHours => "no work hours defined in config"
  | invalidWorkHours text =>
    "invalid work hours '" ++ text ++ "' (expected HH-HH with start < end <= 24)"
  | invalidHoliday path error => "invalid off_duty.holidays in " ++ path ++ ": " ++ error.message
  | unsetVariable path name =>
    "cannot expand path '" ++ path ++ "': error looking key '" ++ name ++
      "' up: environment variable not found"

/-- A configuration that has been given its meaning. -/
structure Config where
  /-- The date that the holidays were resolved against. -/
  anchor : Date
  /-- The working days in the order of the week, each once. -/
  workDays : List Weekday
  /-- The working hours in ascending order, each interval once. -/
  workHours : List HourInterval
  holidays : Holidays
  /-- The log settings, with the path of the log file expanded. -/
  logging : Config.Logging

namespace Config

/-! ### Meaning of the settings -/

/-- The weekdays that a list names, in the order of the week, each once. -/
def readWorkDays (names : List String) : Except ConfigError (List Weekday) := do
  if names.isEmpty then .error .noWorkDays
  else
    let days ← names.mapM fun name =>
      match Weekday.ofName? name with
      | some day => Except.ok day
      | none => .error (.invalidWorkDay name)
    .ok (ascending days)

/-- The intervals that a list denotes, in ascending order, each once. -/
def readWorkHours (texts : List String) : Except ConfigError (List HourInterval) := do
  if texts.isEmpty then .error .noWorkHours
  else
    let intervals ← texts.mapM fun text =>
      match HourInterval.ofText? text with
      | some interval => Except.ok interval
      | none => .error (.invalidWorkHours text)
    .ok (ascending intervals)

/-- The log settings with the path of the log file expanded. -/
def readLogging (env : Environment) (logging : Logging) : Except ConfigError Logging :=
  match logging.file? with
  | none => .ok logging
  | some path =>
    match expand env path with
    | .ok expanded => .ok { logging with file? := some expanded }
    | .error name => .error (.unsetVariable path name)

/-- The configuration that settings make, read from the file at `path`. -/
def ofSettings (env : Environment) (path : String) (anchor : Date) (settings : Settings) :
    Except ConfigError Config := do
  if settings.version ≠ 1 then .error (.badVersion settings.version)
  else
    let workDays ← readWorkDays settings.offDuty.workDays
    let workHours ← readWorkHours settings.offDuty.workHours
    let holidays ← (Holidays.resolve settings.offDuty.holidays anchor).mapError
      (.invalidHoliday path)
    let logging ← readLogging env settings.logging
    .ok ⟨anchor, workDays, workHours, holidays, logging⟩

/-- The configuration of a document, read from the file at `path`. -/
def ofTable (env : Environment) (path : String) (anchor : Date) (table : Toml.Table) :
    Except ConfigError Config := do
  let settings ← (Settings.ofTable table).mapError (.wrongShape path)
  ofSettings env path anchor settings

/-! ### Loading -/

/-- The text that was found at a path. -/
def textOf (path : String) : Contents → Except ConfigError String
  | .missing => .error (.notFound path)
  | .unreadable reason => .error (.unreadable path reason)
  | .bytes data =>
    match String.fromUTF8? data with
    | some text => .ok text
    | none => .error (.unreadable path "stream did not contain valid UTF-8")

/-- The configuration in what was found at a path. -/
def ofContents (env : Environment) (path : String) (anchor : Date) (contents : Contents) :
    Except ConfigError Config := do
  let text ← textOf path contents
  match Toml.parse? text with
  | some table => ofTable env path anchor table
  | none => .error (.malformed path)

/-- The variables that the settings found at a path ask for. -/
def variablesIn (contents : Contents) : List String :=
  match textOf "" contents with
  | .error _ => []
  | .ok text =>
    match (Toml.parse? text).map Settings.ofTable with
    | some (.ok settings) => settings.logging.file?.elim [] variablesOf
    | _ => []

/-- The path that the configuration is loaded from. -/
def pathOr (env : Environment) (path? : Option String) : String :=
  path?.getD (defaultPath env)

/-- The configuration in the file at a path, or at the default path when none is given. -/
def load (files : FileSystem) (env : Environment) (path? : Option String) (anchor : Date) :
    Except ConfigError Config :=
  ofContents env (pathOr env path?) anchor (files.read (pathOr env path?))

/-! ### Questions to a configuration -/

def isWorkDay (c : Config) (day : Weekday) : Bool :=
  c.workDays.contains day

def isWorkHour (c : Config) (hour : Nat) : Bool :=
  c.workHours.any (·.contains hour)

/-- Texts between square brackets, separated by commas. -/
def bracketed (texts : List String) : String :=
  "[" ++ String.intercalate ", " texts ++ "]"

/-- What a configuration holds, as labels and texts in a fixed order. -/
def summary (c : Config) : List (String × String) :=
  [("Work Days", bracketed (c.workDays.map Weekday.abbreviation)),
    ("Work Hours", bracketed (c.workHours.map HourInterval.text)),
    ("Holidays", bracketed (c.holidays.dates.map Date.text))]

end Config

end Almanac
