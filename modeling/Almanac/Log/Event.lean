import Almanac.Config.Load
import Almanac.Log.Severity

/-! What a run of the program logs.

An `Event` is one thing that happened, with what there is to know of it. It has a severity, a target,
which says what part of the program it happened in, and a message. The steps of resolving a template
are events of their own. -/
namespace Almanac.Log

/-- A command that needs the configuration. -/
inductive ConfigCommand
  | doctor
  | holidays
deriving DecidableEq, Repr

inductive Event
  /-- The program has begun. -/
  | started (anchor : Date)
  /-- The log file cannot be created. -/
  | logFileRefused (error : CreateError)
  /-- There is no configuration, and the command needs one. -/
  | configRejected (command : ConfigCommand) (error : ConfigError)
  /-- There is no configuration, and the command does without. -/
  | configMissed (error : ConfigError)
  /-- A step of resolving a template. -/
  | template (step : Template.Step)
  /-- A template names no date. -/
  | templateRejected (fault : Fault)
deriving DecidableEq

namespace Event

def severity : Event → Severity
  | logFileRefused _ => .warn
  | started _ | configRejected .. | configMissed _ | templateRejected _ => .debug
  | template (.named ..) => .debug
  | template (.cut _) | template (.read _) | template (.composed _) | template (.moved _) => .trace

/-- The part of the program that an event happened in. -/
def target : Event → String
  | started _ | logFileRefused _ | configMissed _ => "hld"
  | configRejected .doctor _ => "hld::cmd::doctor"
  | configRejected .holidays _ => "hld::cmd::holidays"
  | templateRejected _ => "hld::cmd::resolve"
  | template (.cut _) => "holidate_core::template::segmenter"
  | template (.read _) => "holidate_core::template::delta"
  | template (.composed _) | template (.moved _) => "holidate_core::template::composer"
  | template (.named ..) => "holidate_core::template"

def message : Event → String
  | started _ => "starting hld"
  | logFileRefused error => error.message ++ "; logging to stderr only"
  | configRejected .. => "config rejected"
  | configMissed _ => "config not loaded, resolving without it"
  | template step => step.message
  | templateRejected _ => "template rejected"

/-- The line of an event in a log, without the time and without what is known of the event beyond
its message. -/
def line (e : Event) : String :=
  e.severity.name ++ " " ++ e.target ++ ": " ++ e.message

end Event

end Almanac.Log
