/-! What the program knows of the user it runs for: the variables of the environment, and where the
home directory is. -/
namespace Almanac

structure Environment where
  /-- Names and values; of two values of one name the first counts. -/
  entries : List (String × String)
  /-- The home directory of the user's account, if there is such an account. -/
  accountHome? : Option String

namespace Environment

/-- The value of a variable, when it is set; it may be empty. -/
def get? (env : Environment) (name : String) : Option String :=
  env.entries.lookup name

/-- The home directory: the variable `HOME`, or what the account says when that is not set or
empty. -/
def home? (env : Environment) : Option String :=
  ((env.get? "HOME").filter (· ≠ "")).or env.accountHome?

end Environment

end Almanac
