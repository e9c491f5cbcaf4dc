import Almanac.Command.Run
import Std.Time.Zoned

/-! The program: what a run has to see is fetched, the run is made, and what it leaves behind is put
where it belongs. -/
namespace Almanac.Program

/-- The reason of a failure as messages give it. -/
def reason : IO.Error → String
  | .inappropriateType _ code details | .permissionDenied _ code details
  | .resourceBusy code details | .otherError code details =>
    details ++ " (os error " ++ toString code ++ ")"
  | error => toString error

def readContents (path : String) : IO Contents := do
  if !(← (System.mkFilePath [path]).pathExists) then return .missing
  try
    return .bytes (← IO.FS.readBinFile path)
  catch error => return .unreadable (reason error)

/-- The home directory that the user database gives to the account that owns this process. -/
def readAccountHome : IO (Option String) := do
  try
    let status ← IO.FS.readFile "/proc/self/status"
    let users ← IO.FS.readFile "/etc/passwd"
    return do
      let owner ← (status.splitOn "\n").find? (·.startsWith "Uid:")
      let uid ← (owner.splitOn "\t")[1]?
      let entry ← ((users.splitOn "\n").map (·.splitOn ":")).find? (·[2]? = some uid)
      entry[5]?
  catch _ => return none

def readEnvironment (names : List String) : IO Environment := do
  let found ← names.mapM fun name => return (← IO.getEnv name).map ((name, ·))
  return ⟨found.filterMap id, ← readAccountHome⟩

/-- Makes an empty file, and before it the directories on the way to it. -/
def createFile (path : String) : IO (Except CreateError Unit) := do
  let directory := "/".intercalate ((path.splitOn "/").dropLast)
  try
    if !directory.isEmpty then IO.FS.createDirAll directory
  catch error => return .error (.directory directory (reason error))
  try
    IO.FS.writeFile path ""
    return .ok ()
  catch error => return .error (.file path (reason error))

/-- The date of today by the local clock, or where there is none by that of the prime meridian. -/
def readToday : IO Date := do
  let today ← try Std.Time.PlainDate.now
    catch _ => return ← dateOf (.ofEpochDay (← Std.Time.Timestamp.now).toDaysSinceUnixEpoch)
  dateOf today
where
  dateOf (day : Std.Time.PlainDate) : IO Date :=
    match Date.ofNumbers? day.year day.month.val day.day.val with
    | some date => return date
    | none => throw (IO.userError "the clock is beyond the calendar")

/-- The lines of events, each with the character that ends it. -/
def linesOf (events : List Log.Event) : String :=
  String.join (events.map (·.line ++ "\n"))

def usage : String :=
  "usage: hld [--config <path>] [--anchor <date>] (doctor | holidays [--json] | " ++
    "resolve [--json] <template>...)"

/-- The words of this program's own parser, and one help for every topic. -/
def wording : Wording where
  documentError
    | _, .malformed => "not a TOML document"
    | _, .wrongShape error => error.message
  help _ := [usage]

/-- What a run has to see. The log file is created when the configuration names one. -/
def readWorld (arguments : List String) : IO World := do
  let known := ["HOME", "XDG_CONFIG_HOME", "RUST_LOG"]
  let today ← readToday
  match Request.ofArguments? arguments with
  | some (.run invocation) =>
    let contents ← readContents (Config.pathOr (← readEnvironment known) invocation.config?)
    let environment ← readEnvironment (known ++ Config.variablesIn contents)
    let seen (created : Except CreateError Unit) : World :=
      ⟨⟨fun _ => contents, fun _ => created⟩, environment, today, wording⟩
    match (Invocation.logging (invocation.load (seen (.ok ())))).file? with
    | some file => return seen (← createFile file)
    | none => return seen (.ok ())
  | _ => return ⟨⟨fun _ => .missing, fun _ => .ok ()⟩, ← readEnvironment known, today, wording⟩

/-- Puts what a run leaves behind where it belongs. -/
def finish (outcome : Outcome) : IO UInt32 := do
  IO.print outcome.report.text
  IO.eprint (linesOf outcome.terminal)
  if outcome.report.status = .usageError then IO.eprintln usage
  if let some file := outcome.logFile? then IO.FS.writeFile file.path (linesOf file.events)
  return UInt32.ofNat outcome.report.status.code

end Almanac.Program

def main (arguments : List String) : IO UInt32 := do
  let world ← Almanac.Program.readWorld arguments
  Almanac.Program.finish (Almanac.run world arguments)
