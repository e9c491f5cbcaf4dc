import Almanac.Log.Event

/-! Resolving the templates of a command line.

The templates are resolved one after the other, and the log hears of every step. The first template
that names no date is rejected, and those behind it are not looked at. -/
namespace Almanac.Command

/-- One template of a command line. -/
def resolveTemplate (anchor : Date) (template : String) : Traced Log.Event Rejection Holiday := do
  let date ← (Template.Trace.resolve template anchor).mapSteps .template
  pure ⟨template, date⟩

/-- The templates of a command line. -/
def resolveTemplates (anchor : Date) : List String → Traced Log.Event Rejection (List Holiday)
  | [] => pure []
  | template :: templates => do
    let holiday ← (resolveTemplate anchor template).sayError (.templateRejected ·.fault)
    let holidays ← resolveTemplates anchor templates
    pure (holiday :: holidays)

end Almanac.Command
