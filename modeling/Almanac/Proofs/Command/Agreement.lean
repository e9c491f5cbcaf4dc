import Almanac.Proofs.Command.Listing
import Almanac.Proofs.Config.Templates

/-! `resolve` and `holidays` on the same templates.

A list of templates may be given on the command line, or as the only setting of a configuration. The
two commands go different ways with it, and yet they say the same: both succeed or both fail, the
listing of `holidays` is that of `resolve` in the order of the dates, and what `holidays` says of a
list that it cannot resolve is what `resolve` says, with the file and the place of the template put
in front (`resolve_holidays_agree`). -/
namespace Almanac

namespace Report

/-- What `holidays` reports of a configuration of templates alone that cannot be resolved. -/
theorem text_invalidHoliday (parser : Config.DocumentError → String) (env : Environment)
    (path : String) (error : HolidayError) :
    (withoutConfig parser env (some path) "holidays" (.invalidHoliday path error)).text =
      "FAIL hld holidays\n" ++ ("invalid off_duty.holidays in " ++ path ++ ": holiday #" ++
        toString (error.index + 1) ++ " is invalid: " ++ (error.rejection.message ++ "\n")) := by
  have message : (ConfigError.invalidHoliday path error).message parser =
      "invalid off_duty.holidays in " ++ path ++ ": " ++
        ("holiday #" ++ toString (error.index + 1) ++ " is invalid: " ++ error.rejection.message) :=
    rfl
  rw [text_withoutConfig, causeText, if_neg (Option.some_ne_none path), message,
    ← String.toList_inj]
  simp

end Report

/-! ### A configuration of templates alone -/

section Listed
variable {w : World} {words : List String} {path : String} {anchor : Date}
  {templates : List String} {document : Toml.Table} {json : Bool}
  (decodes : Config.Decodes (w.files.read path) document)
  (only : Config.ListsOnly document templates)
  (asked : Request.ofArguments? words = some (.run ⟨some path, some anchor, .holidays json⟩))
include decodes only asked

theorem report_holidays_of_ok {holidays : Holidays}
    (found : Holidays.resolve templates anchor = .ok holidays) :
    (run w words).report = .holidays json (Config.ofHolidays anchor holidays) := by
  have loaded : (Invocation.mk (some path) (some anchor) (.holidays json)).load w = _ :=
    Config.ofContents_of_listsOnly decodes only w.environment path anchor
  rw [found] at loaded
  rw [run_of_request asked, Invocation.report_run_of_ok rfl loaded]
  rfl

theorem report_holidays_of_error {error : HolidayError}
    (found : Holidays.resolve templates anchor = .error error) :
    (run w words).report = .withoutConfig (w.wording.documentError (w.files.read path))
      w.environment (some path) "holidays" (.invalidHoliday path error) := by
  have loaded : (Invocation.mk (some path) (some anchor) (.holidays json)).load w = _ :=
    Config.ofContents_of_listsOnly decodes only w.environment path anchor
  rw [found] at loaded
  rw [run_of_request asked, (Invocation.run_of_error loaded).1]
  rfl

end Listed

/-- **`resolve` and `holidays` agree.** Given the same templates, one by its command line and the
other by a configuration that lists them and says nothing else, and the same anchor, both succeed or
both fail. If they succeed, each prints one JSON array with an object for each template, as written
and with the date that it names: `resolve` in the order given, `holidays` by date. If they fail,
`holidays` puts its file and the place of the first template that names no date before what
`resolve` prints. There is such a configuration for every list (`Config.exists_listsOnly`). -/
theorem resolve_holidays_agree {w w' : World} {words words' : List String} {path : String}
    {config? : Option String} {anchor : Date} {templates : List String} {document : Toml.Table}
    {json json' : Bool} (decodes : Config.Decodes (w.files.read path) document)
    (only : Config.ListsOnly document templates)
    (asked : Request.ofArguments? words = some (.run ⟨some path, some anchor, .holidays json⟩))
    (asked' : Request.ofArguments? words' =
      some (.run ⟨config?, some anchor, .resolve templates json'⟩)) :
    let listed := (run w words).report
    let resolved := (run w' words').report
    let object (holiday : Holiday) : Json.Value :=
      .object [("template", .string holiday.template), ("date", .string holiday.date.text)]
    (resolved.status.code = 0 ↔ listed.status.code = 0) ∧
    (resolved.status.code = 0 → ∃ holidays : Holidays, holidays.templates = templates ∧
      (∀ holiday ∈ holidays.entries,
        Template.resolve holiday.template anchor = .ok holiday.date) ∧
      ∃ listing, holidays.IsByDate listing ∧
        (json' = true → ∀ v, Json.Document resolved.text.toList v ↔
          v = .array (holidays.entries.map object)) ∧
        (json = true → ∀ v, Json.Document listed.text.toList v ↔
          v = .array (listing.map object))) ∧
    (resolved.status.code ≠ 0 → ∃ place rejection rest,
      FirstRejection anchor templates place rejection ∧
        resolved.text = "FAIL hld resolve\n" ++ rest ∧
        listed.text = "FAIL hld holidays\n" ++ ("invalid off_duty.holidays in " ++ path ++
          ": holiday #" ++ toString (place + 1) ++ " is invalid: " ++ rest)) := by
  intro listed resolved object
  have resolves : resolved = .resolve templates json' anchor := by
    show (run w' words').report = _
    rw [run_of_request asked', Invocation.report_run_resolve rfl]
    rfl
  cases found : Holidays.resolve templates anchor with
  | ok holidays =>
    have lists : listed = _ := report_holidays_of_ok decodes only asked found
    rw [lists, resolves, Report.resolve_of_ok found]
    refine ⟨⟨fun _ => rfl, fun _ => rfl⟩, fun _ => ?_, fun failed => absurd rfl failed⟩
    obtain ⟨written, named⟩ := Holidays.resolve_eq_ok_iff.1 found
    refine ⟨holidays, written, named, holidays.byDate, holidays.isByDate_byDate, fun asJson => ?_,
      (Report.showsListing json _).array⟩
    rw [if_pos asJson]
    exact Report.document_json_iff _ _
  | error error =>
    have lists : listed = _ := report_holidays_of_error decodes only asked found
    rw [lists, resolves, Report.resolve_of_error found]
    refine ⟨⟨fun h => (by cases h), fun h => (by cases h)⟩, fun h => (by cases h), fun _ => ?_⟩
    refine ⟨error.index, error.rejection, error.rejection.message ++ "\n",
      Holidays.resolve_eq_error_iff.1 found, ?_, Report.text_invalidHoliday _ _ _ _⟩
    rw [Report.text_failure, List.map_singleton, String.join_cons, String.join_nil,
      String.append_empty]
    rfl

/-- Dates out of order, of which one is named twice, and a list with two templates that name none. -/
theorem resolve_holidays_agree_twice :
    let anchor : Date := ⟨2024, 6, 15, by decide⟩
    let world (templates : List String) : World :=
      .uniform (.bytes (String.ofList (Config.listing templates)).toUTF8) true
    let nowhere : World := .uniform .missing false
    let holidays := ["holidays", "--json", "--anchor=2024-06-15", "--config=/hld.toml"]
    let resolve (templates : List String) :=
      "resolve" :: "--json" :: "--anchor=2024-06-15" :: "--" :: templates
    let named := ["YEAR-12-25", "2024-01-01", "2024-<12>-25"]
    let unnamed := ["YEAR-12-25", "2024-02-30", "<<YEAR"]
    let christmas : Json.Value :=
      .object [("template", .string "YEAR-12-25"), ("date", .string "2024-12-25")]
    let newYear : Json.Value :=
      .object [("template", .string "2024-01-01"), ("date", .string "2024-01-01")]
    let again : Json.Value :=
      .object [("template", .string "2024-<12>-25"), ("date", .string "2024-12-25")]
    ((∀ v, Json.Document (run nowhere (resolve named)).report.text.toList v ↔
        v = .array [christmas, newYear, again]) ∧
      ∀ v, Json.Document (run (world named) holidays).report.text.toList v ↔
        v = .array [newYear, christmas, again]) ∧
    ∃ place rejection rest, FirstRejection anchor unnamed place rejection ∧
      (run nowhere (resolve unnamed)).report.text = "FAIL hld resolve\n" ++ rest ∧
      (run (world unnamed) holidays).report.text = "FAIL hld holidays\n" ++
        ("invalid off_duty.holidays in " ++ "/hld.toml" ++ ": holiday #" ++ toString (place + 1) ++
          " is invalid: " ++ rest) := by
  intro anchor world nowhere holidays resolve named unnamed christmas newYear again
  have decodes (templates : List String) : Config.Decodes ((world templates).files.read "/hld.toml")
      _ := ⟨_, rfl, Config.parse?_listing templates⟩
  have asked : Request.ofArguments? holidays =
      some (.run ⟨some "/hld.toml", some anchor, .holidays true⟩) := by decide +kernel
  have askedNamed : Request.ofArguments? (resolve named) =
      some (.run ⟨none, some anchor, .resolve named true⟩) := by decide +kernel
  have askedUnnamed : Request.ofArguments? (resolve unnamed) =
      some (.run ⟨none, some anchor, .resolve unnamed true⟩) := by decide +kernel
  have succeeds : (run nowhere (resolve named)).report.status.code = 0 := by decide +kernel
  have fails : (run nowhere (resolve unnamed)).report.status.code ≠ 0 := by decide +kernel
  constructor
  · obtain ⟨given, written, dated, listing, byDate, resolved, listed⟩ :=
      (resolve_holidays_agree (decodes named) (.refl _) asked askedNamed).2.1 succeeds
    have found : Holidays.resolve named anchor = .ok ⟨[⟨"YEAR-12-25", ⟨2024, 12, 25, by decide⟩⟩,
        ⟨"2024-01-01", ⟨2024, 1, 1, by decide⟩⟩,
        ⟨"2024-<12>-25", ⟨2024, 12, 25, by decide⟩⟩]⟩ := by decide +kernel
    obtain rfl :=
      Except.ok.inj ((Holidays.resolve_eq_ok_iff.2 ⟨written, dated⟩).symm.trans found)
    obtain rfl : listing = [⟨"2024-01-01", ⟨2024, 1, 1, by decide⟩⟩,
        ⟨"YEAR-12-25", ⟨2024, 12, 25, by decide⟩⟩,
        ⟨"2024-<12>-25", ⟨2024, 12, 25, by decide⟩⟩] := by
      rw [Holidays.eq_byDate byDate, Holidays.byDate]
      simp +decide [List.mergeSort]
    have first : Date.text ⟨2024, 1, 1, by decide⟩ = "2024-01-01" := by decide +kernel
    have last : Date.text ⟨2024, 12, 25, by decide⟩ = "2024-12-25" := by decide +kernel
    have resolved := resolved rfl
    have listed := listed rfl
    simp only [List.map_cons, List.map_nil, first, last] at resolved listed
    exact ⟨resolved, listed⟩
  · exact (resolve_holidays_agree (decodes unnamed) (.refl _) asked askedUnnamed).2.2 fails

end Almanac
