import Almanac.Command.Run
import Almanac.Proofs.Command.Arguments
import Almanac.Proofs.Holiday.Resolution
import Almanac.Proofs.Template.Attribution

/-! What `resolve` prints.

The command takes its templates in turn and holds back what it has to say until the last of them, so
that it prints a line for each or the rejection of the first that names no date, and never some of
both (`resolve_all_or_nothing`). It asks for nothing but its templates, its anchor and the form: a
run that has the same of these prints the same and succeeds alike, whatever there is of files and
variables and whichever configuration is given (`resolve_independent`). -/
namespace Almanac

/-! ### Templates -/

namespace Command

theorem result_resolveTemplate (anchor : Date) (template : String) :
    (resolveTemplate anchor template).result = Holiday.resolve template anchor := by
  rw [resolveTemplate, Traced.result_bind, Traced.result_mapSteps, Holiday.resolve,
    Template.resolve]
  cases (Template.Trace.resolve template anchor).result with
  | error rejection => rfl
  | ok date => rfl

theorem result_resolveTemplates (anchor : Date) (templates : List String) :
    (resolveTemplates anchor templates).result = templates.mapM (Holiday.resolve · anchor) := by
  induction templates with
  | nil => rfl
  | cons template templates ih =>
    simp only [resolveTemplates, Traced.result_bind, Traced.result_sayError,
      result_resolveTemplate, ih, List.mapM_cons]
    rfl

end Command

/-! ### Reports -/

namespace Report
variable {templates : List String} {anchor : Date}

theorem resolve_of_ok {holidays : Holidays} (h : Holidays.resolve templates anchor = .ok holidays)
    (asJson : Bool) : resolve templates asJson anchor =
      ⟨.success, if asJson then json holidays.entries else plain holidays.entries⟩ := by
  rw [resolve, Command.result_resolveTemplates, Holidays.mapM_resolve, h]
  rfl

theorem resolve_of_error {error : HolidayError}
    (h : Holidays.resolve templates anchor = .error error) (asJson : Bool) :
    resolve templates asJson anchor = failure "resolve" [error.rejection.message] := by
  rw [resolve, Command.result_resolveTemplates, Holidays.mapM_resolve, h]
  rfl

theorem text_plain (status : Status) (holidays : List Holiday) : text ⟨status, plain holidays⟩ =
    String.join (holidays.map fun holiday =>
      holiday.template ++ " -> " ++ holiday.date.text ++ "\n") := by
  rw [text, plain, List.map_map]
  rfl

theorem text_failure (command : String) (details : List String) :
    (failure command details).text =
      "FAIL hld " ++ command ++ "\n" ++ String.join (details.map (· ++ "\n")) := by
  rw [failure, text, List.map_cons, String.join_cons]

end Report

/-! ### Runs -/

/-- A world in which every path leads to the same contents, and no variable is set but that of the
home directory. -/
def World.uniform (contents : Contents) (canCreate : Bool) : World where
  files := ⟨fun _ => contents,
    fun path => if canCreate then .ok () else .error (.file path "permission denied")⟩
  environment := ⟨[("HOME", "/home/hld")], none⟩
  today := default
  wording := ⟨fun _ _ => "", fun _ => []⟩

theorem run_of_request {w : World} {words : List String} {i : Invocation}
    (asked : Request.ofArguments? words = some (.run i)) : run w words = i.run w := by
  rw [run, asked]
  rfl

/-- The report of `resolve` stands whatever becomes of the configuration and of the log file. -/
theorem Invocation.report_run_resolve {i : Invocation} {templates : List String} {json : Bool}
    (command : i.command = .resolve templates json) (w : World) :
    (i.run w).report = .resolve templates json (i.anchor w) := by
  obtain ⟨config?, anchor?, _⟩ := i
  obtain rfl := command
  unfold run outcome
  dsimp only
  split
  · rfl
  · split
    · rfl
    · rfl

/-- **All or nothing.** If every template names a date, `resolve` succeeds and, unless it is asked
for JSON, prints the templates in their order, each with its date on a line. Otherwise it fails and
prints the first template that names none, with what is wrong with it, and nothing else. -/
theorem resolve_all_or_nothing {w : World} {words : List String} {i : Invocation}
    {templates : List String} {json : Bool}
    (asked : Request.ofArguments? words = some (.run i))
    (command : i.command = .resolve templates json) :
    (∀ holidays, Holidays.resolve templates (i.anchor w) = .ok holidays →
      (run w words).report.status.code = 0 ∧ holidays.templates = templates ∧
        (json = false → (run w words).report.text =
          String.join (holidays.entries.map fun holiday =>
            holiday.template ++ " -> " ++ holiday.date.text ++ "\n"))) ∧
    ∀ error, Holidays.resolve templates (i.anchor w) = .error error →
      (run w words).report.status.code = 1 ∧
        (run w words).report.text = "FAIL hld resolve\n" ++ error.rejection.message ++ "\n" ∧
        templates[error.index]? = some error.rejection.template ∧
        Template.resolve error.rejection.template (i.anchor w) = .error error.rejection := by
  rw [run_of_request asked, Invocation.report_run_resolve command]
  constructor
  · intro holidays h
    rw [Report.resolve_of_ok h]
    refine ⟨rfl, (Holidays.resolve_eq_ok_iff.1 h).1, fun plain => ?_⟩
    rw [plain]
    exact Report.text_plain _ _
  · intro error h
    obtain ⟨template, place, rejected⟩ := (Holidays.resolve_eq_error_iff.1 h).found
    obtain rfl := (Template.resolve_eq_error_iff.1 rejected).1
    rw [Report.resolve_of_error h, Report.text_failure, List.map_singleton, String.join_cons,
      String.join_nil, String.append_empty, ← String.append_assoc]
    exact ⟨rfl, rfl, place, rejected⟩

/-- A template may hold an arrow of its own. One that names no date keeps back those before it and
those after it. -/
theorem resolve_all_or_nothing_arrow :
    (Request.ofArguments? ["resolve", "--anchor=2024-06-15", "YEAR-12-25", "<YEAR -> 1-01-01"] =
        some (.run ⟨none, some ⟨2024, 6, 15, by decide⟩,
          .resolve ["YEAR-12-25", "<YEAR -> 1-01-01"] false⟩) ∧
      (run (.uniform .missing false)
          ["resolve", "--anchor=2024-06-15", "YEAR-12-25", "<YEAR -> 1-01-01"]).report.text =
        "YEAR-12-25 -> 2024-12-25\n<YEAR -> 1-01-01 -> 2023-01-01\n") ∧
    Request.ofArguments? ["resolve", "--json", "--anchor", "2024-6-15", "--", "2024-01-01",
        "2024-02-30", "<<YEAR"] =
      some (.run ⟨none, some ⟨2024, 6, 15, by decide⟩,
        .resolve ["2024-01-01", "2024-02-30", "<<YEAR"] true⟩) ∧
      (run (.uniform .missing false) ["resolve", "--json", "--anchor", "2024-6-15", "--",
          "2024-01-01", "2024-02-30", "<<YEAR"]).report.text =
        "FAIL hld resolve\n" ++
          "invalid holiday template '2024-02-30': 2024-02-30 is not a valid calendar date\n" := by
  have dates : Holidays.resolve ["YEAR-12-25", "<YEAR -> 1-01-01"] ⟨2024, 6, 15, by decide⟩ =
      .ok ⟨[⟨"YEAR-12-25", ⟨2024, 12, 25, by decide⟩⟩,
        ⟨"<YEAR -> 1-01-01", ⟨2023, 1, 1, by decide⟩⟩]⟩ := by decide +kernel
  have rejected : Holidays.resolve ["2024-01-01", "2024-02-30", "<<YEAR"]
      ⟨2024, 6, 15, by decide⟩ = .error ⟨1, ⟨"2024-02-30", .noSuchDate 2024 2 30⟩⟩ := by
    decide +kernel
  have asked : Request.ofArguments? ["resolve", "--anchor=2024-06-15", "YEAR-12-25",
      "<YEAR -> 1-01-01"] = some (.run ⟨none, some ⟨2024, 6, 15, by decide⟩,
        .resolve ["YEAR-12-25", "<YEAR -> 1-01-01"] false⟩) := by decide +kernel
  have askedJson : Request.ofArguments? ["resolve", "--json", "--anchor", "2024-6-15", "--",
      "2024-01-01", "2024-02-30", "<<YEAR"] = some (.run ⟨none, some ⟨2024, 6, 15, by decide⟩,
        .resolve ["2024-01-01", "2024-02-30", "<<YEAR"] true⟩) := by decide +kernel
  refine ⟨⟨asked, ?_⟩, askedJson, ?_⟩
  · rw [((resolve_all_or_nothing asked rfl).1 _ dates).2.2 rfl]
    decide +kernel
  · rw [((resolve_all_or_nothing askedJson rfl).2 _ rejected).2.1]
    decide +kernel

/-! ### Independence -/

/-- **`resolve` depends on its templates, its anchor and the form alone.** In any two worlds, with
any configurations or none, the command line with the same anchor, form and templates succeeds alike
and prints the same; and so do any two command lines that differ in the option `--config` at most
and ask for templates from an anchor. -/
theorem resolve_independent (w w' : World) (templates : List String) (json : Bool) :
    (∀ anchor config? config'?, config? ≠ some "" → config'? ≠ some "" →
      (run w (Request.resolveWords config? anchor json templates)).report.status.code =
          (run w' (Request.resolveWords config'? anchor json templates)).report.status.code ∧
        (run w (Request.resolveWords config? anchor json templates)).report.text =
          (run w' (Request.resolveWords config'? anchor json templates)).report.text) ∧
    ∀ words words' config? anchor request,
      Request.ofArguments? words = some (.run ⟨config?, some anchor, .resolve templates json⟩) →
      Request.ofArguments? words' = some request →
      Command.withoutConfig words = Command.withoutConfig words' →
        (run w words).report.status.code = (run w' words').report.status.code ∧
          (run w words).report.text = (run w' words').report.text := by
  constructor
  · intro anchor config? config'? given given'
    rw [run, run, Request.ofArguments?_resolveWords given, Request.ofArguments?_resolveWords given']
    cases Date.ofText? anchor with
    | none => exact ⟨rfl, rfl⟩
    | some date =>
      cases templates with
      | nil => exact ⟨rfl, rfl⟩
      | cons template templates =>
        show (Invocation.run _ w).report.status.code = (Invocation.run _ w').report.status.code ∧
          (Invocation.run _ w).report.text = (Invocation.run _ w').report.text
        rw [Invocation.report_run_resolve rfl, Invocation.report_run_resolve rfl]
        exact ⟨rfl, rfl⟩
  · intro words words' config? anchor request asked asked' same
    have equal := Request.withoutConfig_eq asked asked' same
    cases request with
    | version => cases equal
    | help topic => cases equal
    | run j =>
      obtain ⟨config'?, anchor?, command⟩ := j
      cases equal
      rw [run_of_request asked, run_of_request asked', Invocation.report_run_resolve rfl,
        Invocation.report_run_resolve rfl]
      exact ⟨rfl, rfl⟩

/-- A run with no configuration prints what a run does whose configuration asks for a log file that
cannot be created. -/
theorem resolve_independent_log :
    let refused := World.uniform (.bytes "version = 1\n[logging]\nfile = \"/no/log\"".toUTF8) false
    (some "/hld.toml" ≠ some "" ∧
      (run (.uniform .missing false) ["resolve", "--anchor=2024-06-15", "--",
          "YEAR-12-25"]).report.text =
        (run refused ["resolve", "--config=/hld.toml", "--anchor=2024-06-15", "--",
          "YEAR-12-25"]).report.text) ∧
    Request.ofArguments? ["resolve", "YEAR-12-25", "--anchor=2024-06-15"] = some
        (.run ⟨none, some ⟨2024, 6, 15, by decide⟩, .resolve ["YEAR-12-25"] false⟩) ∧
      (run (.uniform .missing false) ["resolve", "YEAR-12-25", "--anchor=2024-06-15"]).report.text =
        (run refused ["--config", "/hld.toml", "resolve", "YEAR-12-25",
          "--anchor=2024-06-15"]).report.text := by
  intro refused
  have asked : Request.ofArguments? ["resolve", "YEAR-12-25", "--anchor=2024-06-15"] = some
      (.run ⟨none, some ⟨2024, 6, 15, by decide⟩, .resolve ["YEAR-12-25"] false⟩) := by
    decide +kernel
  have asked' : Request.ofArguments? ["--config", "/hld.toml", "resolve", "YEAR-12-25",
      "--anchor=2024-06-15"] = some (.run ⟨some "/hld.toml", some ⟨2024, 6, 15, by decide⟩,
        .resolve ["YEAR-12-25"] false⟩) := by
    decide +kernel
  have same : Command.withoutConfig ["resolve", "YEAR-12-25", "--anchor=2024-06-15"] =
      Command.withoutConfig ["--config", "/hld.toml", "resolve", "YEAR-12-25",
        "--anchor=2024-06-15"] := by decide +kernel
  have independent := resolve_independent (.uniform .missing false) refused ["YEAR-12-25"] false
  exact ⟨⟨by decide, (independent.1 "2024-06-15" none (some "/hld.toml") (by decide)
    (by decide)).2⟩, asked, (independent.2 _ _ _ _ _ asked asked' same).2⟩

end Almanac
