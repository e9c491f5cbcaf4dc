import Almanac.Calendar.DateText

/-! What a command line asks for.

The words of a command line are read on two levels, before and after the name of the command. The
options `--config` and `--anchor` are known on both, and what is given after the command counts
more; `--json` belongs to the commands that list holidays, and `--version` stands before any
command. An option is given at most once on a level. A value follows its option as the next word,
if that word does not look like an option, or after `=`. After `--` every word is an operand. Help
may be asked for on both levels or by the word `help` in place of a command, and then nothing is
read any further. -/
namespace Almanac

/-- A command and what it works on. -/
inductive Command
  /-- Check the configuration. -/
  | doctor
  /-- List the holidays of the configuration. -/
  | holidays (json : Bool)
  /-- Resolve templates. -/
  | resolve (templates : List String) (json : Bool)
deriving DecidableEq, Repr

/-- A command with the options that every command has. -/
structure Invocation where
  config? : Option String
  anchor? : Option Date
  command : Command
deriving DecidableEq

/-- What there is help on. -/
inductive Topic
  | program
  | doctor
  | holidays
  | resolve
  /-- The word that asks for help. -/
  | help
deriving DecidableEq, Repr

/-- What a command line asks for. -/
inductive Request
  | version
  | help (topic : Topic)
  | run (invocation : Invocation)
deriving DecidableEq

namespace Command

/-! ### Words -/

/-- A word by its look. -/
inductive Word
  /-- A long option, with the text after its first `=`. -/
  | option (name : List Char) (value? : Option (List Char))
  /-- Short options. -/
  | letters (cs : List Char)
  /-- The word that ends the options. -/
  | dashes
  | plain
deriving DecidableEq, Repr

/-- The look of a word; a single `-` is plain. -/
def Word.ofChars : List Char → Word
  | ['-', '-'] => .dashes
  | '-' :: '-' :: cs =>
    .option (cs.takeWhile (· ≠ '=')) (match cs.dropWhile (· ≠ '=') with
      | _ :: value => some value
      | [] => none)
  | '-' :: c :: cs => .letters (c :: cs)
  | _ => .plain

/-- The look of a word. -/
def Word.ofText (s : String) : Word :=
  Word.ofChars s.toList

/-! ### Options -/

/-- An option that has a value. -/
inductive Setting
  | config
  | anchor
deriving DecidableEq, Repr

def Setting.all : List Setting :=
  [config, anchor]

def Setting.name : Setting → String
  | config => "config"
  | anchor => "anchor"

/-- The option of a name. -/
def Setting.ofName? (name : List Char) : Option Setting :=
  all.find? (·.name.toList == name)

/-- What was given on one level. -/
structure Given where
  config? : Option String
  anchor? : Option Date
  json : Bool
  operands : List String
  /-- Whether help was asked for. -/
  help : Bool

def Given.nothing : Given :=
  ⟨none, none, false, [], false⟩

/-- An option with its value. A path must not be empty. -/
def Given.set (g : Given) (setting : Setting) (value : String) : Option Given :=
  match setting with
  | .config =>
    if g.config?.isSome ∨ value.isEmpty then none else some { g with config? := some value }
  | .anchor =>
    if g.anchor?.isSome then none
    else (Date.ofText? value).map fun date => { g with anchor? := some date }

def Given.setJson (g : Given) : Option Given :=
  if g.json then none else some { g with json := true }

def Given.setHelp (g : Given) : Given :=
  { g with help := true }

def Given.add (g : Given) (operands : List String) : Given :=
  { g with operands := g.operands ++ operands }

/-- The value that the next word is, unless it looks like an option. -/
def valueOf (word : String) : Option String :=
  match Word.ofText word with
  | .plain => some word
  | _ => none

/-! ### After the name of the command -/

/-- What the words after the name of a command give. -/
def readWords : Given → List String → Option Given
  | g, [] => some g
  | g, word :: words =>
    match Word.ofText word with
    | .plain => readWords (g.add [word]) words
    | .dashes => some (g.add words)
    | .letters cs => if cs.head? = some 'h' then some g.setHelp else none
    | .option name value? =>
      match Setting.ofName? name, value?, words with
      | some setting, some value, words => do
        readWords (← g.set setting (String.ofList value)) words
      | some setting, none, value :: words => do
        readWords (← g.set setting (← valueOf value)) words
      | some _, none, [] => none
      | none, none, words =>
        if name = "json".toList then do readWords (← g.setJson) words
        else if name = "help".toList then some g.setHelp
        else none
      | none, some _, _ => none

/-- The command of a name, with the operands and options given to it. -/
def ofName? (name : String) (g : Given) : Option Command :=
  match name with
  | "doctor" => if g.json ∨ !g.operands.isEmpty then none else some .doctor
  | "holidays" => if g.operands.isEmpty then some (.holidays g.json) else none
  | "resolve" => if g.operands.isEmpty then none else some (.resolve g.operands g.json)
  | _ => none

/-- The topic of the command of a name, if the command can have the operands and options given. -/
def topicOf? (name : String) (g : Given) : Option Topic :=
  match name with
  | "doctor" => if g.json ∨ !g.operands.isEmpty then none else some .doctor
  | "holidays" => if g.operands.isEmpty then some .holidays else none
  | "resolve" => some .resolve
  | _ => none

end Command

/-- The topic of a name. -/
def Topic.ofName? : String → Option Topic
  | "doctor" => some .doctor
  | "holidays" => some .holidays
  | "resolve" => some .resolve
  | "help" => some .help
  | _ => none

/-! ### Before the name of the command -/

namespace Request
open Command

/-- What a command and the words after it ask for, after what was given before it. -/
def ofCommand? (outer : Given) (name : String) (words : List String) : Option Request := do
  let inner ← readWords Given.nothing words
  if inner.help then (topicOf? name inner).map .help
  else
    let command ← Command.ofName? name inner
    some (.run ⟨inner.config?.or outer.config?, inner.anchor?.or outer.anchor?, command⟩)

/-- What the words after `help` ask for: help on the program, or on the topic that is the only one of
them. -/
def ofTopics? : List String → Option Request
  | [] => some (.help .program)
  | [name] => (Topic.ofName? name).map .help
  | _ => none

/-- What words ask for, after what was given before them. -/
def ofWords? : Given → List String → Option Request
  | _, [] => none
  | g, word :: words =>
    match Word.ofText word with
    | .plain => if word = "help" then ofTopics? words else ofCommand? g word words
    | .dashes => none
    | .letters cs =>
      if cs.head? = some 'V' then some .version
      else if cs.head? = some 'h' then some (.help .program)
      else none
    | .option name value? =>
      match Setting.ofName? name, value?, words with
      | some setting, some value, words => do
        ofWords? (← g.set setting (String.ofList value)) words
      | some setting, none, value :: words => do
        ofWords? (← g.set setting (← valueOf value)) words
      | some _, none, [] => none
      | none, none, _ =>
        if name = "version".toList then some .version
        else if name = "help".toList then some (.help .program)
        else none
      | none, some _, _ => none

/-- What a command line asks for, if it can be understood. -/
def ofArguments? (words : List String) : Option Request :=
  ofWords? Given.nothing words

end Request

end Almanac
