import Almanac.Text.LowerCase

/-! How serious the entries of a log are, and how much of them a log keeps.

A `Threshold` keeps the entries that are at least as serious as its severity; `off` keeps none. A
threshold is named by its severity in letters of either case (`Threshold.ofText?`). -/
namespace Almanac.Log

/-- From the most to the least serious. -/
inductive Severity
  | error | warn | info | debug | trace
deriving DecidableEq, Repr

namespace Severity

/-- The place of a severity, from 1 for the most serious. -/
def rank : Severity → Nat
  | error => 1
  | warn => 2
  | info => 3
  | debug => 4
  | trace => 5

/-- The name of a severity in the lines of a log. -/
def name : Severity → String
  | error => "ERROR"
  | warn => "WARN"
  | info => "INFO"
  | debug => "DEBUG"
  | trace => "TRACE"

end Severity

/-- How much of a log is kept. -/
inductive Threshold
  /-- Nothing. -/
  | off
  /-- Everything at least as serious as this. -/
  | downTo (severity : Severity)
deriving DecidableEq, Repr

namespace Threshold

/-- The thresholds from the strictest on. -/
def all : List Threshold :=
  [off, downTo .error, downTo .warn, downTo .info, downTo .debug, downTo .trace]

/-- The rank of the least serious severity that is kept; 0 when none is. -/
def rank : Threshold → Nat
  | off => 0
  | downTo severity => severity.rank

/-- Whether a severity is kept. -/
def admits (t : Threshold) (s : Severity) : Bool :=
  s.rank ≤ t.rank

/-- The word for a threshold, in small letters. -/
def word : Threshold → String
  | off => "off"
  | downTo .error => "error"
  | downTo .warn => "warn"
  | downTo .info => "info"
  | downTo .debug => "debug"
  | downTo .trace => "trace"

/-- The threshold that a text names, the case of its letters aside. -/
def ofText? (s : String) : Option Threshold :=
  all.find? fun t => t.word.toList == Text.lower s.toList

end Threshold

end Almanac.Log
