import Almanac.Proofs.Command.Listing
import Almanac.Proofs.Config.Document
import Almanac.Proofs.Config.Meaning
import Almanac.Proofs.Json
import Almanac.Proofs.Text.Trim

/-! Giving a printed anchor back.

Wherever a date is printed, it is printed as its one text (`Report.ShowsDates`), and this text is
read as the date, with blanks around it or without (`Date.ofText?_gaps`). So what `doctor` says of
its anchor can be given back to it: the second run asks for the same as the first and does the same
(`printed_anchor_given_back`). -/
namespace Almanac

theorem Date.ofText?_gaps {front back : List Char} (hf : Text.Gap front) (hb : Text.Gap back)
    (d : Date) : ofText? (String.ofList (front ++ d.text.toList ++ back)) = some d := by
  have trimmed : Text.trim (front ++ d.chars ++ back) = Text.trim d.chars := by
    rw [Text.trim_append_gap hb, Text.trim_gap_append hf]
  have read := ofChars?_chars d
  unfold ofChars? at read
  rw [ofText?, String.toList_ofList, text, String.toList_ofList, ofChars?, trimmed]
  exact read

/-! ### The command line of `doctor` -/

namespace Request
open Command

/-- A command line of `doctor` with its options behind the command. -/
def doctorWords (config? : Option String) (anchor : String) : List String :=
  "doctor" :: config?.toList.map Setting.config.word ++ [Setting.anchor.word anchor]

/-- The command line asks for the anchor that is given, unless the configuration has no path. -/
theorem ofArguments?_doctorWords (config? : Option String) (anchor : String) :
    ofArguments? (doctorWords config? anchor) =
      if config? = some "" then none
      else (Date.ofText? anchor).map fun date => .run ⟨config?, some date, .doctor⟩ := by
  show (readWords Given.nothing (config?.toList.map Setting.config.word ++
    [Setting.anchor.word anchor]) >>= _) = _
  rw [readWords_options]
  split
  · rfl
  · cases Date.ofText? anchor with
    | none => rfl
    | some date =>
      cases config? with
      | none => rfl
      | some path => rfl

end Request

/-! ### Texts of dates -/

namespace Report

/-- The lines of a report that say what its anchor is. -/
def anchorLines (r : Report) : List String :=
  r.lines.filter fun line => "anchor: ".toList.isPrefixOf line.toList

theorem anchorLines_doctor (path : String) (c : Config) :
    (doctor path c).anchorLines = ["anchor: " ++ c.anchor.text] := by
  unfold anchorLines
  cases file : c.logging.file? with
  | none => simp [doctor, labelled, Config.summary, file]
  | some file => simp [doctor, labelled, Config.summary, file]

/-- Each form of a listing shows a date as its text: the records of both JSON texts, the lines of the
plain text and the first cells of the table. -/
structure ShowsDates (listing : List Holiday) : Prop where
  compact : Json.read? (Holidays.mk listing).json =
    some (listing.map fun holiday => [("template", holiday.template), ("date", holiday.date.text)])
  json : ∀ status, Json.read? (text ⟨status, json listing⟩) =
    some (listing.map fun holiday => [("template", holiday.template), ("date", holiday.date.text)])
  plain : ∀ status, text ⟨status, plain listing⟩ = String.join (listing.map fun holiday =>
    holiday.template ++ " -> " ++ holiday.date.text ++ "\n")
  table : ∀ status, listing ≠ [] → ∃ drawn,
    text ⟨status, table listing⟩ =
      drawn ++ "\n" ++ ("-- " ++ toString listing.length ++ " holidays --" ++ "\n") ∧
    (Table.read drawn).map List.head? = listing.map fun holiday => some [holiday.date.text.toList]

theorem read_json (status : Status) (holidays : List Holiday) :
    Json.read? (text ⟨status, json holidays⟩) = some (holidays.map Holiday.record) := by
  rw [text, json, join_lines (List.cons_ne_nil _ _), String.intercalate_singleton,
    Json.read?_pretty_line]

theorem showsDates (listing : List Holiday) : ShowsDates listing where
  compact := Json.read?_compact _
  json status := read_json status listing
  plain status := text_plain status listing
  table status some_ := by
    refine ⟨_, text_table some_ status, ?_⟩
    rw [read_rows, List.map_map]
    exact List.map_congr_left fun holiday _ => rfl

end Report

/-! ### Runs -/

namespace Config

/-- The anchor of a configuration is the one it was loaded with. -/
theorem anchor_of_load {files : FileSystem} {env : Environment} {path? : Option String}
    {anchor : Date} {c : Config} (h : load files env path? anchor = .ok c) : c.anchor = anchor := by
  obtain ⟨settings, -, meant⟩ := load_eq_ok_iff.1 h
  exact (ofSettings_eq_ok_iff.1 meant).2.1

end Config

theorem doctor_of_success {w : World} {words : List String} {config? : Option String}
    {anchor : Date} (asked : Request.ofArguments? words = some (.run ⟨config?, some anchor, .doctor⟩))
    (success : (run w words).report.status.code = 0) : ∃ c : Config, c.anchor = anchor ∧
      (run w words).report = .doctor (Config.pathOr w.environment config?) c := by
  rw [run_of_request asked] at success ⊢
  cases found : Config.load w.files w.environment config? anchor with
  | error error =>
    rw [(Invocation.run_of_error (i := ⟨config?, some anchor, .doctor⟩) found).1] at success
    cases success
  | ok c =>
    have report := Invocation.report_run_of_ok (i := ⟨config?, some anchor, .doctor⟩) rfl found
    rw [report] at success ⊢
    split at success
    · next created => exact ⟨c, Config.anchor_of_load found, if_pos created⟩
    · cases success

/-- The anchor that a run of `doctor` says it has leads to the same run. -/
theorem doctor_again {w : World} {words : List String} {config? : Option String} {anchor : Date}
    (asked : Request.ofArguments? words = some (.run ⟨config?, some anchor, .doctor⟩))
    (success : (run w words).report.status.code = 0) : ∃ text,
      (run w words).report.anchorLines = ["anchor: " ++ text] ∧ Date.ofText? text = some anchor ∧
      ∀ words', Request.ofArguments? words' = some (.run ⟨config?, Date.ofText? text, .doctor⟩) →
        run w words' = run w words := by
  obtain ⟨c, rfl, report⟩ := doctor_of_success asked success
  refine ⟨c.anchor.text, ?_, Date.ofText?_text c.anchor, fun words' asked' => ?_⟩
  · rw [report, Report.anchorLines_doctor]
  · rw [Date.ofText?_text] at asked'
    rw [run_of_request asked, run_of_request asked']

/-- A command line of `doctor` that succeeds has an anchor that can be read. -/
theorem asked_of_success {w : World} {config? : Option String} {given : String}
    (success : (run w (Request.doctorWords config? given)).report.status.code = 0) :
    config? ≠ some "" ∧ ∃ anchor, Date.ofText? given = some anchor := by
  rw [run, Request.ofArguments?_doctorWords] at success
  split at success
  · next request asked =>
    split at asked
    · cases asked
    · next path =>
      obtain ⟨anchor, read, -⟩ := Option.map_eq_some_iff.1 asked
      exact ⟨path, anchor, read⟩
  · cases success

/-- **A printed anchor can be given back.** The text of a date is read as the date, whatever blanks
surround it. When `doctor` succeeds, the text on its anchor line, given back with the same
configuration, makes the same run. Distinct dates have distinct texts, and every form of output
shows a date as its text. -/
theorem printed_anchor_given_back :
    (∀ (d : Date) (front back : List Char), Text.Gap front → Text.Gap back →
      Date.ofText? (String.ofList (front ++ d.text.toList ++ back)) = some d) ∧
    (∀ w words config? anchor,
      Request.ofArguments? words = some (.run ⟨config?, some anchor, .doctor⟩) →
      (run w words).report.status.code = 0 → ∃ text,
        (run w words).report.anchorLines = ["anchor: " ++ text] ∧ Date.ofText? text = some anchor ∧
        ∀ words', Request.ofArguments? words' =
            some (.run ⟨config?, Date.ofText? text, .doctor⟩) → run w words' = run w words) ∧
    (∀ w config? given, (run w (Request.doctorWords config? given)).report.status.code = 0 →
      ∃ text, (run w (Request.doctorWords config? given)).report.anchorLines = ["anchor: " ++ text] ∧
        run w (Request.doctorWords config? text) = run w (Request.doctorWords config? given)) ∧
    Function.Injective Date.text ∧
    (∀ listing, Report.ShowsDates listing) ∧
    ∀ path c, Report.NamesDates c.holidays.byDate (.doctor path c) := by
  refine ⟨fun d front back hf hb => d.ofText?_gaps hf hb,
    fun w words config? anchor asked success => doctor_again asked success,
    fun w config? given success => ?_, Date.text_injective, Report.showsDates,
    fun path c => Report.namesDates c.holidays.isByDate_byDate path⟩
  obtain ⟨path, anchor, read⟩ := asked_of_success success
  have asked : Request.ofArguments? (Request.doctorWords config? given) =
      some (.run ⟨config?, some anchor, .doctor⟩) := by
    rw [Request.ofArguments?_doctorWords, if_neg path, read]
    rfl
  obtain ⟨text, line, reads, same⟩ := doctor_again asked success
  refine ⟨text, line, same _ ?_⟩
  rw [Request.ofArguments?_doctorWords, if_neg path, reads]
  rfl

/-- A year with a sign between blanks, and an anchor that is not written as it is printed. -/
theorem printed_anchor_given_back_june :
    let w := World.uniform (.bytes "version = 1".toUTF8) true
    let june : Date := ⟨2024, 6, 5, by decide⟩
    let far : Date := ⟨-1, 2, 28, by decide⟩
    (Text.Gap [' '] ∧ Text.Gap ['\u3000', '\n'] ∧ far.text = "-0001-02-28" ∧
      Date.ofText? " -0001-02-28\u3000\n" = some far) ∧
    (Request.ofArguments? ["--anchor", " 2024-6-5", "doctor"] =
        some (.run ⟨none, some june, .doctor⟩) ∧
      (run w ["--anchor", " 2024-6-5", "doctor"]).report.status.code = 0 ∧
      ∃ text, (run w ["--anchor", " 2024-6-5", "doctor"]).report.anchorLines =
          ["anchor: " ++ text] ∧ Date.ofText? text = some june) ∧
    (run w (Request.doctorWords none "2024- 6- 5 ")).report.status.code = 0 ∧
      ∃ text, (run w (Request.doctorWords none "2024- 6- 5 ")).report.anchorLines =
          ["anchor: " ++ text] ∧
        run w (Request.doctorWords none text) = run w (Request.doctorWords none "2024- 6- 5 ") := by
  intro w june far
  have front : Text.Gap [' '] := List.forall_mem_singleton.2 rfl
  have back : Text.Gap ['\u3000', '\n'] :=
    List.forall_mem_cons.2 ⟨by decide, List.forall_mem_singleton.2 rfl⟩
  have asked : Request.ofArguments? ["--anchor", " 2024-6-5", "doctor"] =
      some (.run ⟨none, some june, .doctor⟩) := by decide +kernel
  have succeeds : (run w ["--anchor", " 2024-6-5", "doctor"]).report.status.code = 0 := by
    decide +kernel
  have succeeds' : (run w (Request.doctorWords none "2024- 6- 5 ")).report.status.code = 0 := by
    decide +kernel
  have text : far.text = "-0001-02-28" := by decide +kernel
  have padded : " -0001-02-28\u3000\n" =
      String.ofList ([' '] ++ far.text.toList ++ ['\u3000', '\n']) := by decide +kernel
  obtain ⟨printed, line, reads, -⟩ :=
    printed_anchor_given_back.2.1 w _ none june asked succeeds
  refine ⟨⟨front, back, text, ?_⟩, ⟨asked, succeeds, printed, line, reads⟩, succeeds',
    printed_anchor_given_back.2.2.1 w none _ succeeds'⟩
  rw [padded]
  exact printed_anchor_given_back.1 far _ _ front back

end Almanac
