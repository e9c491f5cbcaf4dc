import Almanac.Log.Event
import Almanac.Text.Digits
import Almanac.Text.Word

/-! Which events a log keeps.

A `Filter` is a list of rules, each a threshold for the targets that begin with the rule's own; of
the rules that an event's target satisfies, the one with the longest target decides, and of rules
with one target the last. Without a request a filter has one rule for every target. A request
(`Filter.ofText`) is a list of directives between commas, and takes the place of that rule as soon
as one of them can be read: a level for every target, or `target=level`, or a target alone, of
which everything is kept. -/
namespace Almanac.Log

/-- A threshold for the targets that begin with a text. -/
structure Rule where
  target : List Char
  threshold : Threshold
deriving DecidableEq, Repr

structure Filter where
  rules : List Rule
deriving DecidableEq, Repr

namespace Filter

/-- The filter with one threshold for every target. -/
def uniform (threshold : Threshold) : Filter :=
  ⟨[⟨[], threshold⟩]⟩

/-- Of two rules the one with the longer target, or the second if neither is longer. -/
def closer (best? : Option Rule) (rule : Rule) : Option Rule :=
  match best? with
  | none => some rule
  | some best => some (if best.target.length ≤ rule.target.length then rule else best)

/-- The rule that decides about a target. -/
def ruleFor (f : Filter) (target : List Char) : Option Rule :=
  (f.rules.filter (·.target.isPrefixOf target)).foldl closer none

/-- Whether an event is kept. -/
def admits (f : Filter) (e : Event) : Bool :=
  match f.ruleFor e.target.toList with
  | some rule => rule.threshold.admits e.severity
  | none => false

@[simp] theorem admits_uniform (threshold : Threshold) (e : Event) :
    (uniform threshold).admits e = threshold.admits e.severity := by
  simp [uniform, admits, ruleFor, closer]

/-- The events that are kept, in their order. -/
def keep (f : Filter) (events : List Event) : List Event :=
  events.filter f.admits

end Filter

/-! ### Requests -/

/-- What a directive of a request asks for. -/
inductive Directive
  | rule (rule : Rule)
  /-- Something about the spans of a program. This one has none, so that no event is concerned. -/
  | spans
deriving DecidableEq, Repr

/-- The threshold that a level stands for: a word, or the rank as a number. -/
def readLevel (cs : List Char) : Option Threshold :=
  let digits := if cs.head? = some '+' then cs.tail else cs
  match Text.number? digits with
  | some n => Threshold.all[n]?
  | none => Threshold.ofText? (String.ofList cs)

/-- Whether a directive may begin with this character. -/
def startsDirective (c : Char) : Bool :=
  Text.isWordChar c || c == '-' || c == ':'

/-- A directive that gives a target and, after `=`, a level. No level at all keeps everything. -/
def readTarget (target level : List Char) : Option Directive :=
  if target.head?.any Text.isBlank then none
  else if level.isEmpty then some (.rule ⟨target, .downTo .trace⟩)
  else (readLevel level).map fun threshold => .rule ⟨target, threshold⟩

/-- The directive that a text gives. Blanks are part of a target, but a target that is followed by a
level must not begin with one. -/
def Directive.ofChars? (cs : List Char) : Option Directive :=
  let target := cs.takeWhile (· ≠ '=')
  if target.contains '[' then some .spans
  else if !(Text.trimStart cs).head?.any startsDirective then none
  else
    match cs.dropWhile (· ≠ '=') with
    | _ :: level => readTarget target level
    | [] =>
      match readLevel cs with
      | some threshold => some (.rule ⟨[], threshold⟩)
      | none => some (.rule ⟨cs, .downTo .trace⟩)

/-- The rule of a directive, if it has one. -/
def Directive.rule? : Directive → Option Rule
  | rule r => some r
  | spans => none

/-- The filter that a request makes. The threshold decides when no directive can be read. -/
def Filter.ofText (threshold : Threshold) (request : String) : Filter :=
  match (request.toList.splitOn ',').filterMap Directive.ofChars? with
  | [] => uniform threshold
  | directives => ⟨directives.filterMap Directive.rule?⟩

end Almanac.Log
