import Almanac.Proofs.Calendar.DateText
import Almanac.Proofs.Command.Resolving
import Almanac.Proofs.Json.Written

/-! Holidays as JSON.

The compact text of a list of holidays, the pretty one and what `resolve --json` prints are, by the
grammar of JSON, one and the same array: an object for each holiday, whose only members are the
template as written and the text of the date (`json_decodes`). A date has one text, so that
two lists with the same array are the same list (`Holidays.jsonValue_injective`). -/
namespace Almanac

namespace Holidays

/-- The array that a list of holidays is. -/
def jsonValue (h : Holidays) : Json.Value :=
  .array (h.entries.map fun holiday =>
    .object [("template", .string holiday.template), ("date", .string holiday.date.text)])

/-- The pretty JSON text of a list of holidays, in the order given. -/
def prettyJson (h : Holidays) : String :=
  Json.pretty (h.entries.map Holiday.record)

theorem ofRecords_record (h : Holidays) :
    Json.ofRecords (h.entries.map Holiday.record) = h.jsonValue := by
  rw [Json.ofRecords, List.map_map]
  rfl

/-- The object of a holiday tells its template and, since dates have texts of their own, its date. -/
theorem object_injective : Function.Injective fun holiday : Holiday => Json.Value.object
    [("template", .string holiday.template), ("date", .string holiday.date.text)] := by
  intro a b same
  simp only [Json.Value.object.injEq, List.cons.injEq, Prod.mk.injEq, true_and, and_true,
    Json.Value.string.injEq] at same
  obtain ⟨template, date⟩ := a
  obtain ⟨template', date'⟩ := b
  exact congrArg₂ Holiday.mk same.1 (Date.text_injective same.2)

theorem jsonValue_injective : Function.Injective jsonValue := by
  intro a b same
  obtain ⟨entries⟩ := a
  obtain ⟨entries'⟩ := b
  exact congrArg mk (List.map_injective_iff.2 object_injective (Json.Value.array.inj same))

theorem document_json_iff (h : Holidays) (v : Json.Value) :
    Json.Document h.json.toList v ↔ v = h.jsonValue := by
  have document := Json.document_compact (h.entries.map Holiday.record)
  rw [ofRecords_record] at document
  constructor
  · exact fun other => other.unique document
  · rintro rfl
    exact document

theorem document_prettyJson_append_iff (h : Holidays) {gap : List Char} (blank : Json.Gap gap)
    (v : Json.Value) : Json.Document (h.prettyJson.toList ++ gap) v ↔ v = h.jsonValue := by
  have document := Json.document_pretty_append (h.entries.map Holiday.record) blank
  rw [ofRecords_record] at document
  constructor
  · exact fun other => other.unique document
  · rintro rfl
    exact document

/-- Lists with the same text are the same. -/
theorem json_inj {h h' : Holidays} : h.json = h'.json ↔ h = h' := by
  constructor
  · intro same
    have document := (document_json_iff h _).2 rfl
    rw [same, document_json_iff] at document
    exact jsonValue_injective document
  · rintro rfl
    rfl

theorem prettyJson_inj {h h' : Holidays} : h.prettyJson = h'.prettyJson ↔ h = h' := by
  constructor
  · intro same
    have document := (document_prettyJson_append_iff h Json.gap_nil _).2 rfl
    rw [same, document_prettyJson_append_iff h' Json.gap_nil] at document
    exact jsonValue_injective document
  · rintro rfl
    rfl

end Holidays

/-- What `resolve` prints when it is asked for JSON and every template names a date. -/
theorem text_resolve_json {w : World} {words : List String} {config? : Option String}
    {anchor? : Option Date} {templates : List String} {holidays : Holidays}
    (asked : Request.ofArguments? words =
      some (.run ⟨config?, anchor?, .resolve templates true⟩))
    (resolved : Holidays.resolve templates (anchor?.getD w.today) = .ok holidays) :
    (run w words).report.text = holidays.prettyJson ++ "\n" := by
  have anchored : Holidays.resolve templates
      ((Invocation.mk config? anchor? (.resolve templates true)).anchor w) = .ok holidays := resolved
  rw [run_of_request asked, Invocation.report_run_resolve rfl, Report.resolve_of_ok anchored]
  show String.join [holidays.prettyJson ++ "\n"] = _
  rw [String.join_cons, String.join_nil, String.append_empty]

/-- **JSON decodes to the holidays.** By the grammar of JSON, the compact text of a list of holidays
that was resolved, its pretty text and what `resolve --json` prints are one array and nothing else:
an object for each template, in their order, with the template as written, the text of its date and
no other members. So two lists have the same text, of either form, exactly when they are the
same. -/
theorem json_decodes {templates : List String} {anchor : Date} {holidays : Holidays}
    (resolved : Holidays.resolve templates anchor = .ok holidays) :
    let array := Json.Value.array (holidays.entries.map fun holiday =>
      .object [("template", .string holiday.template), ("date", .string holiday.date.text)])
    holidays.entries.map (·.template) = templates ∧
    (∀ v, Json.Document holidays.json.toList v ↔ v = array) ∧
    (∀ v, Json.Document holidays.prettyJson.toList v ↔ v = array) ∧
    (∀ w words config? anchor?, Request.ofArguments? words =
        some (.run ⟨config?, anchor?, .resolve templates true⟩) → anchor?.getD w.today = anchor →
      (run w words).report.text = holidays.prettyJson ++ "\n" ∧
        ∀ v, Json.Document (run w words).report.text.toList v ↔ v = array) ∧
    ∀ templates' anchor' holidays', Holidays.resolve templates' anchor' = .ok holidays' →
      (holidays.json = holidays'.json ↔ holidays = holidays') ∧
        (holidays.prettyJson = holidays'.prettyJson ↔ holidays = holidays') := by
  refine ⟨(Holidays.resolve_eq_ok_iff.1 resolved).1, holidays.document_json_iff, fun v => ?_,
    fun w words config? anchor? asked anchored => ?_,
    fun _ _ holidays' _ => ⟨Holidays.json_inj, Holidays.prettyJson_inj⟩⟩
  · rw [← List.append_nil holidays.prettyJson.toList]
    exact holidays.document_prettyJson_append_iff Json.gap_nil v
  · have printed := text_resolve_json asked (anchored ▸ resolved)
    refine ⟨printed, fun v => ?_⟩
    rw [printed, String.toList_append]
    exact holidays.document_prettyJson_append_iff (List.forall_mem_singleton.2 rfl) v

/-- Templates with a line end, a tab, a control and a blank beyond ASCII in them, and one of a year
with a sign. -/
theorem json_decodes_blanks :
    let anchor : Date := ⟨2024, 6, 15, by decide⟩
    let templates := ["\n2024-\x0b01-\t01", "YEAR\u3000-12-25", "<YEAR - 2025>-01-01"]
    let holidays : Holidays := ⟨[⟨"\n2024-\x0b01-\t01", ⟨2024, 1, 1, by decide⟩⟩,
      ⟨"YEAR\u3000-12-25", ⟨2024, 12, 25, by decide⟩⟩,
      ⟨"<YEAR - 2025>-01-01", ⟨-1, 1, 1, by decide⟩⟩]⟩
    let words := ["resolve", "--anchor=2024-06-15", "--json", "--"] ++ templates
    let array := Json.Value.array
      [.object [("template", .string "\n2024-\x0b01-\t01"), ("date", .string "2024-01-01")],
        .object [("template", .string "YEAR\u3000-12-25"), ("date", .string "2024-12-25")],
        .object [("template", .string "<YEAR - 2025>-01-01"), ("date", .string "-0001-01-01")]]
    Holidays.resolve templates anchor = .ok holidays ∧
      Request.ofArguments? words = some (.run ⟨none, some anchor, .resolve templates true⟩) ∧
      Json.Document (run (.uniform .missing false) words).report.text.toList array ∧
      Holidays.resolve [] anchor = .ok ⟨[]⟩ ∧ holidays.json ≠ (Holidays.mk []).json := by
  intro anchor templates holidays words array
  have resolved : Holidays.resolve templates anchor = .ok holidays := by decide +kernel
  have asked : Request.ofArguments? words =
      some (.run ⟨none, some anchor, .resolve templates true⟩) := by decide +kernel
  have nothing : Holidays.resolve [] anchor = .ok ⟨[]⟩ := rfl
  obtain ⟨-, -, -, printed, others⟩ := json_decodes resolved
  refine ⟨resolved, asked, ?_, nothing, fun same => ?_⟩
  · refine ((printed (.uniform .missing false) words none (some anchor) asked rfl).2 array).2 ?_
    have first : Date.text ⟨2024, 1, 1, by decide⟩ = "2024-01-01" := by decide +kernel
    have second : Date.text ⟨2024, 12, 25, by decide⟩ = "2024-12-25" := by decide +kernel
    have third : Date.text ⟨-1, 1, 1, by decide⟩ = "-0001-01-01" := by decide +kernel
    simp only [array, holidays, List.map_cons, List.map_nil, first, second, third]
  · have equal := congrArg (·.entries.length) ((others [] anchor ⟨[]⟩ nothing).1.1 same)
    cases equal

end Almanac
