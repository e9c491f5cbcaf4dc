import Almanac.Command.Arguments
import Almanac.Command.Report
import Almanac.Log.Setup

/-! A run of the program.

A run sees the world as a file system, an environment and the date of today, and it finds the words
of the libraries that the program is made with. It yields an `Outcome`: what is printed, whether the
run succeeded, and what is logged where. The configuration
is loaded first, whatever the command. `doctor` and `holidays` need it, and they need the log file
that it names; `resolve` does without either. The terminal's log and that of the file hear the
same events, and each keeps what its own filter admits. -/
namespace Almanac

/-- Texts that the program prints and does not make itself. -/
structure Wording where
  /-- What the parser says of an error in the document that a file has for its contents. -/
  documentError : Contents → Config.DocumentError → String
  /-- The lines that help with a topic. -/
  help : Topic → List String

/-- What a run sees. -/
structure World where
  files : FileSystem
  environment : Environment
  today : Date
  wording : Wording

/-- A file that is written. -/
structure LogFile where
  path : String
  events : List Log.Event
deriving DecidableEq

/-- What a run leaves behind. -/
structure Outcome where
  report : Report
  /-- The events that the terminal shows. -/
  terminal : List Log.Event
  logFile? : Option LogFile

/-! ### Invocations -/

namespace Invocation

/-- What the configuration was found to be. -/
abbrev Loaded := Except ConfigError Config

/-- The date that templates are seen from. -/
def anchor (i : Invocation) (w : World) : Date :=
  i.anchor?.getD w.today

def load (i : Invocation) (w : World) : Loaded :=
  Config.load w.files w.environment i.config? (i.anchor w)

/-- The parser's words for what is wrong with the document that the configuration is. -/
def parserWords (i : Invocation) (w : World) : Config.DocumentError → String :=
  w.wording.documentError (w.files.read (Config.pathOr w.environment i.config?))

/-- What the command reports. -/
def report (i : Invocation) (w : World) (loaded : Loaded) : Report :=
  match i.command, loaded with
  | .resolve templates json, _ => .resolve templates json (i.anchor w)
  | .doctor, .ok c => .doctor (Config.pathOr w.environment i.config?) c
  | .doctor, .error e =>
    .withoutConfig (i.parserWords w) w.environment i.config? "doctor" e
  | .holidays json, .ok c => .holidays json c
  | .holidays _, .error e =>
    .withoutConfig (i.parserWords w) w.environment i.config? "holidays" e

/-- What happens after the logs were opened. -/
def events (i : Invocation) (w : World) (loaded : Loaded) : List Log.Event :=
  .started (i.anchor w) ::
    match i.command, loaded with
    | .resolve templates _, .ok _ => (Command.resolveTemplates (i.anchor w) templates).steps
    | .resolve templates _, .error e =>
      .configMissed e :: (Command.resolveTemplates (i.anchor w) templates).steps
    | .doctor, .error e => [.configRejected .doctor e]
    | .holidays _, .error e => [.configRejected .holidays e]
    | .doctor, .ok _ | .holidays _, .ok _ => []

/-- The log settings: those of the configuration, or the default ones when there is none. -/
def logging : Loaded → Config.Logging
  | .ok c => c.logging
  | .error _ => .default

/-- Whether the command goes on when the log file cannot be created. -/
def needsNoLogFile (i : Invocation) : Bool :=
  match i.command with
  | .resolve .. => true
  | .doctor | .holidays _ => false

/-- What a run leaves behind once its configuration was looked for. -/
def outcome (i : Invocation) (w : World) (loaded : Loaded) : Outcome :=
  let logging := logging loaded
  let report := i.report w loaded
  let events := i.events w loaded
  let terminal := Log.terminalFilter w.environment logging
  match logging.file? with
  | none => ⟨report, terminal.keep events, none⟩
  | some path =>
    match w.files.create path with
    | .ok () =>
      ⟨report, terminal.keep events,
        some ⟨path, (Log.fileFilter w.environment logging).keep events⟩⟩
    | .error e =>
      if i.needsNoLogFile then ⟨report, terminal.keep (.logFileRefused e :: events), none⟩
      else ⟨⟨.failure, []⟩, [], none⟩

def run (i : Invocation) (w : World) : Outcome :=
  i.outcome w (i.load w)

end Invocation

/-- What a request leaves behind. -/
def Request.outcome (w : World) : Request → Outcome
  | .version => ⟨⟨.success, ["hld 0.1.0"]⟩, [], none⟩
  | .help topic => ⟨⟨.success, w.wording.help topic⟩, [], none⟩
  | .run invocation => invocation.run w

/-- What a command line leaves behind. -/
def run (w : World) (arguments : List String) : Outcome :=
  match Request.ofArguments? arguments with
  | some request => request.outcome w
  | none => ⟨⟨.usageError, []⟩, [], none⟩

end Almanac
