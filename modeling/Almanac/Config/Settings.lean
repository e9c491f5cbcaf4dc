import Almanac.Text.Quoted
import Almanac.Toml.Value

/-! The settings that a configuration file makes.

A document has the keys `version`, `off_duty` and `logging`, and `off_duty` has `work_days`,
`work_hours` and `holidays`; neither may have any other key, whereas `logging` may. Everything but
the version may be left out. Where a table of settings is expected, an array will do: its items
are the settings in their order, and items too many are ignored. When several entries are wrong
the one whose key comes first in the order of code points is reported, and a missing version only
when nothing else is wrong. A number without a value is wrong wherever a value is asked for, which
also an entry of `logging` with another key is, but neither an item too many nor an array or a table
where something else is expected. -/
namespace Almanac.Config
open Toml (Value Table NumberKind)

/-! ### What may be wrong -/

/-- What a setting has to be. -/
inductive Expected
  | version
  | string
  | strings
  | path
  | offDuty
  | logging
deriving DecidableEq, Repr

/-- What a document of the wrong shape has or lacks. -/
inductive ShapeError
  | missingField (name : String)
  | unknownField (name : String) (known : List String)
  | wrongType (found : String) (expected : Expected)
  /-- An integer that is no version number. -/
  | badInteger (number : Int)
  /-- A number without a value. -/
  | overflowed (kind : NumberKind)
deriving DecidableEq, Repr

def Expected.message : Expected → String
  | version => "u32"
  | string => "a string"
  | strings => "a sequence"
  | path => "path string"
  | offDuty => "struct OffDutyConfig"
  | logging => "struct LoggingConfig"

/-- A name as messages quote it. -/
def ticked (name : String) : String :=
  "`" ++ name ++ "`"

def ShapeError.message : ShapeError → String
  | missingField name => "missing field " ++ ticked name
  | unknownField name known =>
    "unknown field " ++ ticked name ++ ", expected one of " ++
      String.intercalate ", " (known.map ticked)
  | wrongType found expected => "invalid type: " ++ found ++ ", expected " ++ expected.message
  | badInteger number =>
    "invalid value: integer " ++ ticked (toString number) ++ ", expected " ++
      Expected.version.message
  | overflowed .integer => "integer number overflowed"
  | overflowed .float => "floating-point number overflowed"

/-- An integer as messages describe it: one too large for 64 bits is described by its size. -/
def describeInteger (n : Int) : String :=
  "integer " ++ ticked (toString n) ++
    if Toml.hasWidth 64 n then "" else if Toml.isSigned 128 n then " as i128" else " as u128"

/-- A value as messages describe it. A number without a value is an error of its own. -/
def describe : Value → Except ShapeError String
  | .string text => .ok ("string " ++ Text.quoted text)
  | .integer number => .ok (describeInteger number)
  | .float text => .ok ("floating point " ++ ticked text)
  | .overflowed kind => .error (.overflowed kind)
  | .boolean truth => .ok ("boolean " ++ ticked (toString truth))
  | .moment _ => .ok "map"
  | .array _ => .ok "sequence"
  | .table _ => .ok "map"

/-- The error of a value that is not what it has to be. -/
def mismatch {α : Type} (value : Value) (expected : Expected) : Except ShapeError α := do
  .error (.wrongType (← describe value) expected)

/-! ### Single settings -/

/-- A version number has 32 bits and no sign. -/
def readVersion : Value → Except ShapeError Nat
  | .integer n =>
    if Toml.isUnsigned 32 n then .ok n.toNat
    else if Toml.hasWidth 64 n then .error (.badInteger n)
    else mismatch (.integer n) .version
  | value => mismatch value .version

def readString (expected : Expected) : Value → Except ShapeError String
  | .string text => .ok text
  | value => mismatch value expected

def readStrings : Value → Except ShapeError (List String)
  | .array items => items.mapM (readString .string)
  | value => mismatch value .strings

/-! ### Tables of settings -/

/-- The entry with the least key. -/
def leastKey {α : Type} : List (String × α) → Option (String × α)
  | [] => none
  | entry :: entries =>
    match leastKey entries with
    | none => some entry
    | some other => if other.1 < entry.1 then some other else some entry

/-- The error of the least key among the entries that have one. -/
def firstError (check : String → Value → Except ShapeError Unit) (table : Table) :
    Except ShapeError Unit :=
  let errors := table.filterMap fun (key, value) =>
    match check key value with
    | .ok _ => none
    | .error e => some (key, e)
  match leastKey errors with
  | some (_, e) => .error e
  | none => .ok ()

/-- A setting that may be left out. -/
def readOr {α : Type} (default : α) (read : Value → Except ShapeError α) (table : Table)
    (key : String) : Except ShapeError α :=
  match table.lookup key with
  | some value => read value
  | none => .ok default

/-- The key under which the entries of a date or a time are seen where a table is expected. -/
def momentKey : String := "$__toml_private_datetime"

/-- The table that is to be read as settings with the given names, in their order: a table as it is,
an array by places, and a date or a time as a table of one entry. -/
def asTable? (names : List String) : Value → Option Table
  | .table table => some table
  | .array items => some (names.zip items)
  | .moment text => some [(momentKey, .string text)]
  | _ => none

/-! ### Off-duty settings -/

/-- The working days, the working hours and the templates of the holidays, as written. -/
structure OffDuty where
  workDays : List String
  workHours : List String
  holidays : List String
deriving DecidableEq, Repr

def OffDuty.default : OffDuty where
  workDays := ["mon", "tue", "wed", "thu", "fri"]
  workHours := ["08-12", "13-17"]
  holidays := []

def OffDuty.names : List String := ["work_days", "work_hours", "holidays"]

/-- Whether an entry of the off-duty settings is in order. -/
def OffDuty.check (key : String) (value : Value) : Except ShapeError Unit :=
  if names.contains key then (readStrings value).map fun _ => ()
  else .error (.unknownField key names)

def OffDuty.ofTable (table : Table) : Except ShapeError OffDuty := do
  let workDays ← readOr default.workDays readStrings table "work_days"
  let workHours ← readOr default.workHours readStrings table "work_hours"
  let holidays ← readOr default.holidays readStrings table "holidays"
  .ok ⟨workDays, workHours, holidays⟩

def OffDuty.read (value : Value) : Except ShapeError OffDuty :=
  match asTable? names value with
  | some table => do
    match value with
    | .array _ => .ok ()
    | _ => firstError check table
    ofTable table
  | none => mismatch value .offDuty

/-! ### Log settings -/

/-- How much is logged, and to which file besides the terminal. -/
structure Logging where
  level : String
  fileLevel? : Option String
  file? : Option String
deriving DecidableEq, Repr

def Logging.default : Logging where
  level := "info"
  fileLevel? := none
  file? := none

def Logging.names : List String := ["level", "file_level", "file"]

/-- Whether a value that is not used is in order. -/
def checkUnused (value : Value) : Except ShapeError Unit :=
  match value.overflow? with
  | some kind => .error (.overflowed kind)
  | none => .ok ()

/-- Whether an entry of the log settings is in order; an entry with another key is not used. -/
def Logging.check (key : String) (value : Value) : Except ShapeError Unit :=
  if key = "level" ∨ key = "file_level" then (readString .string value).map fun _ => ()
  else if key = "file" then (readString .path value).map fun _ => ()
  else checkUnused value

def Logging.ofTable (table : Table) : Except ShapeError Logging := do
  let level ← readOr default.level (readString .string) table "level"
  let fileLevel? ← readOr none (fun v => (readString .string v).map some) table "file_level"
  let file? ← readOr none (fun v => (readString .path v).map some) table "file"
  .ok ⟨level, fileLevel?, file?⟩

def Logging.read (value : Value) : Except ShapeError Logging :=
  match asTable? names value with
  | some table => do
    match value with
    | .array _ => .ok ()
    | _ => firstError check table
    ofTable table
  | none => mismatch value .logging

/-! ### The document -/

/-- What a configuration file says, before any of it is given a meaning. -/
structure Settings where
  version : Nat
  offDuty : OffDuty
  logging : Logging
deriving DecidableEq, Repr

def Settings.names : List String := ["version", "off_duty", "logging"]

/-- Whether an entry of the document is in order. -/
def Settings.check (key : String) (value : Value) : Except ShapeError Unit :=
  if key = "version" then (readVersion value).map fun _ => ()
  else if key = "off_duty" then (OffDuty.read value).map fun _ => ()
  else if key = "logging" then (Logging.read value).map fun _ => ()
  else .error (.unknownField key names)

/-- The settings of a document. -/
def Settings.ofTable (table : Table) : Except ShapeError Settings := do
  firstError check table
  let offDuty ← readOr OffDuty.default OffDuty.read table "off_duty"
  let logging ← readOr Logging.default Logging.read table "logging"
  match table.lookup "version" with
  | some value => .ok ⟨← readVersion value, offDuty, logging⟩
  | none => .error (.missingField "version")

end Almanac.Config
