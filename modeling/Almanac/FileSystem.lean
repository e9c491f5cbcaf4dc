/-! What the program asks of a file system.

It reads one file and, if the configuration names a log file, creates that one. A path leads to
nothing, to something that cannot be read as a file, or to bytes. -/
namespace Almanac

/-- What is found at a path. -/
inductive Contents
  | missing
  | unreadable (reason : String)
  | bytes (data : ByteArray)

/-- Why a log file cannot be created. -/
inductive CreateError
  /-- The directory that it belongs in cannot be made. -/
  | directory (path reason : String)
  /-- The file itself cannot be made. -/
  | file (path reason : String)
deriving DecidableEq, Repr

namespace CreateError

/-- What is said of a thing at a path that cannot be created. -/
def failed (thing path reason : String) : String :=
  "Failed to create log " ++ thing ++ " " ++ path ++ ": " ++ reason

def message : CreateError → String
  | directory path reason => failed "directory" path reason
  | file path reason => failed "file" path reason

end CreateError

structure FileSystem where
  /-- What reading a path finds. -/
  read : String → Contents
  /-- What comes of creating a file at a path, after the directories it needs. -/
  create : String → Except CreateError Unit

/-- Whether a file can be created at a path. -/
def FileSystem.canCreate (files : FileSystem) (path : String) : Bool :=
  (files.create path).isOk

end Almanac
