import Almanac.Config.Settings
import Almanac.Environment
import Almanac.Log.Filter

/-! The filters of the two logs.

The log settings give each log its threshold, and what the variable `RUST_LOG` asks for takes the
place of both. A level that names no threshold is no error: the terminal then keeps to its
default, and the file lets debugging through. -/
namespace Almanac.Log

/-- The filter of a log, from a threshold and what the environment asks for. -/
def filter (env : Environment) (threshold : Threshold) : Filter :=
  .ofText threshold ((env.get? "RUST_LOG").getD "")

/-- The filter of the terminal. A level that names no threshold leaves the default. -/
def terminalFilter (env : Environment) (logging : Config.Logging) : Filter :=
  filter env ((Threshold.ofText? logging.level).getD (.downTo .info))

/-- The threshold of the log file: its own level, or that of the terminal when it has none. A level
that names no threshold lets debugging through. -/
def fileThreshold (logging : Config.Logging) : Threshold :=
  (Threshold.ofText? (logging.fileLevel?.getD logging.level)).getD (.downTo .debug)

def fileFilter (env : Environment) (logging : Config.Logging) : Filter :=
  filter env (fileThreshold logging)

end Almanac.Log
