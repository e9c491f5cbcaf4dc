import Almanac.Environment
import Almanac.Text.Word

/-! Variables and the home directory in a path.

`$NAME` and `${NAME}` stand for the value of a variable, `${NAME:-text}` for the text when the
variable is not set, and `$$` for a dollar; a dollar before anything else, and one before a brace
that is never closed, stands for itself. What a variable puts in is not looked at again.
Afterwards `~` at the front, alone or before a separator, stands for the home directory, provided
that the path as written began with it. -/
namespace Almanac.Config

/-! ### Parts of a path -/

/-- A part of a path as written. -/
inductive Part
  | text (chars : List Char)
  /-- A variable, and the text for when it is not set. -/
  | variable (name : String) (fallback? : Option String)
deriving DecidableEq, Repr

/-- The name and the fallback in a text between braces: a fallback comes after the first `:-`, which
counts only when a name stands before it. -/
def splitFallback (cs : List Char) : Part :=
  match separator 0 cs with
  | some (n + 1) =>
    .variable (String.ofList (cs.take (n + 1))) (some (String.ofList (cs.drop (n + 3))))
  | _ => .variable (String.ofList cs) none
where
  /-- The place of the first `:-`. -/
  separator (place : Nat) : List Char → Option Nat
    | ':' :: '-' :: _ => some place
    | _ :: cs => separator (place + 1) cs
    | [] => none

/-- The parts of a path; `fuel` bounds their number. -/
def partsOf : Nat → List Char → List Part
  | 0, _ => []
  | _, [] => []
  | fuel + 1, '$' :: '$' :: cs => .text ['$'] :: partsOf fuel cs
  | fuel + 1, '$' :: '\x7b' :: cs =>
    match cs.dropWhile (· != '\x7d') with
    | [] => .text ['$', '\x7b'] :: partsOf fuel cs
    | _ :: rest => splitFallback (cs.takeWhile (· != '\x7d')) :: partsOf fuel rest
  | fuel + 1, '$' :: cs =>
    match cs.takeWhile Text.isWordChar with
    | [] => .text ['$'] :: partsOf fuel cs
    | name => .variable (String.ofList name) none :: partsOf fuel (cs.dropWhile Text.isWordChar)
  | fuel + 1, c :: cs => .text [c] :: partsOf fuel cs

/-- The parts of a path as written. -/
def parts (path : String) : List Part :=
  partsOf path.toList.length path.toList

/-- The variables that a path asks for. -/
def variablesOf (path : String) : List String :=
  (parts path).filterMap fun
    | .text _ => none
    | .variable name _ => some name

/-! ### Expansion -/

/-- What a part stands for; the name of its variable when that is missing. -/
def Part.expand (env : Environment) : Part → Except String (List Char)
  | .text chars => .ok chars
  | .variable name fallback? =>
    match (env.get? name).or fallback? with
    | some value => .ok value.toList
    | none => .error name

/-- A path with the home directory in place of a `~` at its front. -/
def expandHome (env : Environment) (path : List Char) : List Char :=
  match path, env.home? with
  | ['~'], some home => home.toList
  | '~' :: '/' :: rest, some home => home.toList ++ '/' :: rest
  | _, _ => path

/-- A path with its variables replaced, or the name of the first one that is not set. -/
def expand (env : Environment) (path : String) : Except String String := do
  let expanded := (← (parts path).mapM (Part.expand env)).flatten
  let atHome := if path.startsWith "~" then expandHome env expanded else expanded
  .ok (String.ofList atHome)

end Almanac.Config
