import Almanac.Environment

/-! Where the configuration file is looked for when no path is given: below the directory that
`XDG_CONFIG_HOME` names, even if it names none by being empty, or else below `.config` in the home
directory. -/
namespace Almanac.Config

/-- A path below another. Nothing is put between the two when the first is empty or ends in a
separator, and an absolute path replaces what stands before it. -/
def below (path name : String) : String :=
  if path.isEmpty ∨ name.startsWith "/" then name
  else if path.endsWith "/" then path ++ name
  else path ++ "/" ++ name

/-- The path of the configuration file when none is given. -/
def defaultPath (env : Environment) : String :=
  let base := match env.get? "XDG_CONFIG_HOME" with
    | some directory => directory
    | none => below (env.home?.getD "~") ".config"
  below (below base "holidate") "config.toml"

end Almanac.Config
