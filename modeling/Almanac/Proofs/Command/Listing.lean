import Almanac.Proofs.Calendar.DateText
import Almanac.Proofs.Command.Json
import Almanac.Proofs.Holiday.Views
import Almanac.Proofs.Table

/-! What `doctor` and `holidays` print.

The two commands look at one configuration from two sides. Both fail with the same words when there
is none, both say nothing when the log file that it names cannot be created, and both succeed
otherwise (`doctor_holidays_agree`). Then `holidays` lists the holidays by date, as JSON or as a
table from which they can be read back (`ShowsListing`), and `doctor` names the dates of that same
listing, each once (`NamesDates`). -/
namespace Almanac

/-! ### Texts of dates -/

namespace Date

section Text
variable (d : Date)

theorem toList_text_ne_nil : d.text.toList ≠ [] := by
  rw [text, String.toList_ofList]
  exact List.ne_nil_of_mem (a := '-') (by simp [chars])

theorem notMem_text {c : Char} (digit : c.isDigit = false) (dash : c ≠ '-') (plus : c ≠ '+') :
    c ∉ d.text.toList := by
  rw [text, String.toList_ofList]
  exact not_mem_chars digit dash plus

/-- A date is shown as it is written. -/
theorem shown_text : Table.shown d.text = [d.text.toList] :=
  Table.shown_word d.toList_text_ne_nil (d.notMem_text rfl (by decide) (by decide))
    (d.notMem_text rfl (by decide) (by decide))

end Text

end Date

/-- A weekday is shown as it is written. -/
theorem Weekday.shown_name (w : Weekday) : Table.shown w.name = [w.name.toList] := by
  cases w <;> decide +kernel

/-! ### Reports -/

namespace Report

/-- The cause of a failure, with the parser's words for what is wrong with a document, and where the
configuration was looked for unless it was given. -/
def causeText (parser : Config.DocumentError → String) (env : Environment) (config? : Option String)
    (error : ConfigError) : String :=
  error.message parser ++ "\n" ++
    if config? = none then "looked for: " ++ Config.defaultPath env ++ "\n" else ""

theorem text_withoutConfig (parser : Config.DocumentError → String) (env : Environment)
    (config? : Option String) (command : String) (error : ConfigError) :
    (withoutConfig parser env config? command error).text =
      "FAIL hld " ++ command ++ "\n" ++ causeText parser env config? error := by
  rw [withoutConfig, text_failure, causeText]
  cases config? with
  | none => simp
  | some path => simp

theorem join_lines {lines : List String} (h : lines ≠ []) :
    String.join (lines.map (· ++ "\n")) = String.intercalate "\n" lines ++ "\n" := by
  induction lines with
  | nil => exact absurd rfl h
  | cons line lines ih =>
    cases lines with
    | nil => simp
    | cons next lines =>
      rw [List.map_cons, String.join_cons, ih (List.cons_ne_nil _ _),
        String.intercalate_cons_cons, String.append_assoc, String.append_assoc,
        String.append_assoc]

/-- What `holidays` prints of a listing. As JSON it is, by the grammar, an array with an object for
each holiday, whose only members are the template as written and the text of the date. Otherwise it
is a table with a row for each holiday, in which the date, its weekday and the template can be read,
and with their number below it, or a line that says that there are none. -/
structure ShowsListing (json : Bool) (listing : List Holiday) (text : String) : Prop where
  array : json = true → ∀ v, Json.Document text.toList v ↔ v = .array (listing.map fun holiday =>
    .object [("template", .string holiday.template), ("date", .string holiday.date.text)])
  none : json = false → listing = [] → text = "(no holidays configured)\n"
  rows : json = false → listing ≠ [] → ∃ drawn,
    text = drawn ++ "\n" ++ ("-- " ++ toString listing.length ++ " holidays --" ++ "\n") ∧
      Table.read drawn = listing.map fun holiday => [[holiday.date.text.toList],
        [holiday.date.weekday.name.toList], Table.shown holiday.template]

theorem read_rows (listing : List Holiday) :
    Table.read (String.intercalate "\n"
        (Table.lines ["Date", "Weekday", "Template"] (listing.map row))) =
      listing.map fun holiday => [[holiday.date.text.toList],
        [holiday.date.weekday.name.toList], Table.shown holiday.template] := by
  have begins : ∀ cells ∈ listing.map row, cells.length = 3 ∧ Table.Begins (cells.map Table.cell) :=
    List.forall_mem_map.2 fun holiday _ =>
      ⟨rfl, Table.begins_word holiday.date.toList_text_ne_nil
        (holiday.date.notMem_text rfl (by decide) (by decide))
        (holiday.date.notMem_text rfl (by decide) (by decide))⟩
  rw [Table.read_lines (List.cons_ne_nil _ _) begins, List.map_map]
  refine List.map_congr_left fun holiday _ => ?_
  simp only [Function.comp_apply, row, List.map_cons, List.map_nil, Date.shown_text,
    Weekday.shown_name]

theorem text_table {listing : List Holiday} (h : listing ≠ []) (status : Status) :
    text ⟨status, table listing⟩ =
      String.intercalate "\n" (Table.lines ["Date", "Weekday", "Template"] (listing.map row)) ++
        "\n" ++ ("-- " ++ toString listing.length ++ " holidays --" ++ "\n") := by
  have some_ : listing.isEmpty = false := by simpa using h
  have drawn : Table.lines ["Date", "Weekday", "Template"] (listing.map row) ≠ [] :=
    List.cons_ne_nil _ _
  rw [text, table, some_, if_neg Bool.false_ne_true, List.map_append, String.join_append,
    join_lines drawn, join_lines (List.cons_ne_nil _ _), String.intercalate_singleton]

/-- What is printed of holidays as JSON is one array and nothing else. -/
theorem document_json_iff (status : Status) (holidays : List Holiday) (v : Json.Value) :
    Json.Document (text ⟨status, json holidays⟩).toList v ↔ v = .array (holidays.map fun holiday =>
      .object [("template", .string holiday.template), ("date", .string holiday.date.text)]) := by
  rw [text, json, join_lines (List.cons_ne_nil _ _), String.intercalate_singleton,
    String.toList_append]
  exact (Holidays.mk holidays).document_prettyJson_append_iff (List.forall_mem_singleton.2 rfl) v

theorem showsListing (json : Bool) (c : Config) :
    ShowsListing json c.holidays.byDate (holidays json c).text where
  array asked := by
    rw [holidays, if_pos asked]
    exact document_json_iff _ _
  none asked empty := by
    rw [holidays, if_neg (by simp [asked]), empty]
    rfl
  rows asked some_ := by
    rw [holidays, if_neg (by simp [asked]), text_table some_]
    exact ⟨_, rfl, read_rows _⟩

/-- What `doctor` says of the dates of a listing. -/
def NamesDates (listing : List Holiday) (r : Report) : Prop :=
  ∃ dates : List Date, dates.Pairwise (· < ·) ∧
    (∀ date, date ∈ dates ↔ ∃ holiday ∈ listing, holiday.date = date) ∧
    (r.lines.filter fun line => "Holidays: ".toList.isPrefixOf line.toList) =
      ["Holidays: [" ++ String.intercalate ", " (dates.map Date.text) ++ "]"]

theorem namesDates {c : Config} {listing : List Holiday} (h : c.holidays.IsByDate listing)
    (path : String) : NamesDates listing (doctor path c) := by
  refine ⟨c.holidays.dates, c.holidays.pairwise_dates, fun date => Holidays.mem_dates_iff h, ?_⟩
  have line : labelled "Holidays" (Config.bracketed (c.holidays.dates.map Date.text)) =
      "Holidays: [" ++ String.intercalate ", " (c.holidays.dates.map Date.text) ++ "]" := by
    rw [labelled, Config.bracketed, ← String.toList_inj]
    simp
  rw [← line]
  cases file : c.logging.file? with
  | none => simp [doctor, labelled, Config.summary, file]
  | some file => simp [doctor, labelled, Config.summary, file]

end Report

/-! ### Runs -/

namespace Invocation

theorem run_of_error {i : Invocation} {w : World} {error : ConfigError}
    (h : i.load w = .error error) :
    (i.run w).report = i.report w (.error error) ∧ (i.run w).logFile? = none := by
  rw [run, h]
  exact ⟨rfl, rfl⟩

/-- A command that needs the log file keeps silent without it. -/
theorem report_run_of_ok {i : Invocation} {w : World} {c : Config}
    (needs : i.needsNoLogFile = false) (h : i.load w = .ok c) : (i.run w).report =
      if c.logging.file?.all w.files.canCreate then i.report w (.ok c) else ⟨.failure, []⟩ := by
  rw [run, h, outcome]
  cases file : c.logging.file? with
  | none => simp [logging, file]
  | some path =>
    cases created : w.files.create path with
    | ok done =>
      have can : w.files.canCreate path = true := by rw [FileSystem.canCreate, created]; rfl
      simp [logging, file, created, can]
    | error e =>
      have cannot : w.files.canCreate path = false := by rw [FileSystem.canCreate, created]; rfl
      simp [logging, file, created, cannot, needs]

end Invocation

/-- **`doctor` and `holidays` agree.** With one configuration and one anchor, given or not, both
succeed or both fail. Without a configuration both name the same cause and open no log file; without
the log file that the configuration names, both print nothing. Otherwise `holidays` shows the
holidays of the configuration by date, and `doctor` names the dates of this listing, each once and
in their order. -/
theorem doctor_holidays_agree {w : World} {words words' : List String} {config? : Option String}
    {anchor? : Option Date} {json : Bool}
    (asked : Request.ofArguments? words = some (.run ⟨config?, anchor?, .doctor⟩))
    (asked' : Request.ofArguments? words' = some (.run ⟨config?, anchor?, .holidays json⟩)) :
    let parser := w.wording.documentError (w.files.read (Config.pathOr w.environment config?))
    (run w words).report.status.code = (run w words').report.status.code ∧
    (∀ error, Config.load w.files w.environment config? (anchor?.getD w.today) = .error error →
      (run w words).report.status.code = 1 ∧
        (run w words).logFile? = none ∧ (run w words').logFile? = none ∧
        (run w words).report.text =
          "FAIL hld doctor\n" ++ Report.causeText parser w.environment config? error ∧
        (run w words').report.text =
          "FAIL hld holidays\n" ++ Report.causeText parser w.environment config? error) ∧
    ∀ c, Config.load w.files w.environment config? (anchor?.getD w.today) = .ok c →
      (c.logging.file?.all w.files.canCreate = false →
        (run w words).report.status.code = 1 ∧
          (run w words).report.text = "" ∧ (run w words').report.text = "") ∧
      (c.logging.file?.all w.files.canCreate = true →
        (run w words).report.status.code = 0 ∧
          ∃ listing, c.holidays.IsByDate listing ∧
            Report.ShowsListing json listing (run w words').report.text ∧
            Report.NamesDates listing (run w words).report) := by
  intro parser
  rw [run_of_request asked, run_of_request asked']
  cases found : Config.load w.files w.environment config? (anchor?.getD w.today) with
  | error error =>
    obtain ⟨doctor, noLog⟩ := Invocation.run_of_error (i := ⟨config?, anchor?, .doctor⟩) found
    obtain ⟨holidays, noLog'⟩ :=
      Invocation.run_of_error (i := ⟨config?, anchor?, .holidays json⟩) found
    rw [doctor, holidays]
    refine ⟨rfl, fun error' same => ?_, fun c other => (by cases other)⟩
    obtain rfl := Except.error.inj same
    exact ⟨rfl, noLog, noLog', Report.text_withoutConfig _ _ _ _ _,
      Report.text_withoutConfig _ _ _ _ _⟩
  | ok c =>
    have doctor := Invocation.report_run_of_ok (i := ⟨config?, anchor?, .doctor⟩) rfl found
    have holidays :=
      Invocation.report_run_of_ok (i := ⟨config?, anchor?, .holidays json⟩) rfl found
    rw [doctor, holidays]
    refine ⟨?_, fun error other => (by cases other), fun c' same => ?_⟩
    · split
      · rfl
      · rfl
    · obtain rfl := Except.ok.inj same
      refine ⟨fun refused => ?_, fun created => ?_⟩
      · rw [if_neg (by simp [refused]), if_neg (by simp [refused])]
        exact ⟨rfl, rfl, rfl⟩
      · rw [if_pos created, if_pos created]
        exact ⟨rfl, c.holidays.byDate, c.holidays.isByDate_byDate, Report.showsListing json c,
          Report.namesDates c.holidays.isByDate_byDate _⟩

/-- Two templates name one day. Of a configuration whose log file cannot be created nothing is said,
and where there is none both commands say where it was looked for. -/
theorem doctor_holidays_agree_same_day :
    let settings := "version = 1\n[off_duty]\n" ++
      "holidays = [\"YEAR-12-25\", \"2024-01-01\", \"2024-<12>-25\"]\n"
    let logged := settings ++ "[logging]\nfile = \"/no/log\"\n"
    let open_ := World.uniform (.bytes logged.toUTF8) true
    let refused := World.uniform (.bytes logged.toUTF8) false
    let bare := World.uniform .missing true
    let anchor : Date := ⟨2024, 6, 15, by decide⟩
    let doctor := ["doctor", "--anchor=2024-06-15"]
    let holidays := ["holidays", "--anchor=2024-06-15"]
    let asJson := ["holidays", "--json", "--anchor=2024-06-15"]
    let cause := "config file not found at /home/hld/.config/holidate/config.toml\n" ++
      "looked for: /home/hld/.config/holidate/config.toml\n"
    (Request.ofArguments? doctor = some (.run ⟨none, some anchor, .doctor⟩) ∧
      Request.ofArguments? holidays = some (.run ⟨none, some anchor, .holidays false⟩) ∧
      Request.ofArguments? asJson = some (.run ⟨none, some anchor, .holidays true⟩)) ∧
    ((∃ drawn, (run open_ holidays).report.text =
          drawn ++ "\n" ++ ("-- " ++ toString 3 ++ " holidays --" ++ "\n") ∧
        Table.read drawn = [
          [["2024-01-01".toList], ["Monday".toList], ["2024-01-01".toList]],
          [["2024-12-25".toList], ["Wednesday".toList], ["YEAR-12-25".toList]],
          [["2024-12-25".toList], ["Wednesday".toList], ["2024-<12>-25".toList]]]) ∧
      (∀ v, Json.Document (run open_ asJson).report.text.toList v ↔ v = .array [
        .object [("template", .string "2024-01-01"), ("date", .string "2024-01-01")],
        .object [("template", .string "YEAR-12-25"), ("date", .string "2024-12-25")],
        .object [("template", .string "2024-<12>-25"), ("date", .string "2024-12-25")]]) ∧
      ((run open_ doctor).report.lines.filter fun line =>
        "Holidays: ".toList.isPrefixOf line.toList) = ["Holidays: [2024-01-01, 2024-12-25]"]) ∧
    ((run refused doctor).report.text = "" ∧ (run refused holidays).report.text = "") ∧
    (run bare doctor).report.text = "FAIL hld doctor\n" ++ cause ∧
      (run bare holidays).report.text = "FAIL hld holidays\n" ++ cause := by
  intro settings logged open_ refused bare anchor doctor holidays asJson cause
  let newYear : Date := ⟨2024, 1, 1, by decide⟩
  let christmas : Date := ⟨2024, 12, 25, by decide⟩
  have newYearText : newYear.text = "2024-01-01" := by decide +kernel
  have christmasText : christmas.text = "2024-12-25" := by decide +kernel
  have asked : Request.ofArguments? doctor = some (.run ⟨none, some anchor, .doctor⟩) := by
    decide +kernel
  have asked' : Request.ofArguments? holidays = some (.run ⟨none, some anchor, .holidays false⟩) := by
    decide +kernel
  have askedJson : Request.ofArguments? asJson = some (.run ⟨none, some anchor, .holidays true⟩) := by
    decide +kernel
  have loads : (Config.load open_.files open_.environment none anchor).toOption.map
      (fun c => (c.holidays.entries, c.logging.file?)) =
        some ([⟨"YEAR-12-25", christmas⟩, ⟨"2024-01-01", newYear⟩, ⟨"2024-<12>-25", christmas⟩],
          some "/no/log") := by
    decide +kernel
  have path : Config.defaultPath bare.environment =
      "/home/hld/.config/holidate/config.toml" := by
    decide +kernel
  have absent : Config.load bare.files bare.environment none anchor =
      .error (.notFound (Config.defaultPath bare.environment)) := rfl
  cases found : Config.load open_.files open_.environment none anchor with
  | error error =>
    rw [found] at loads
    cases loads
  | ok c =>
    rw [found] at loads
    obtain ⟨entries, file⟩ := Prod.mk.inj (Option.some.inj loads)
    have byDate : c.holidays.byDate = [⟨"2024-01-01", newYear⟩, ⟨"YEAR-12-25", christmas⟩,
        ⟨"2024-<12>-25", christmas⟩] := by
      rw [Holidays.byDate, entries]
      simp +decide [List.mergeSort, newYear, christmas]
    have created : c.logging.file?.all open_.files.canCreate = true := by rw [file]; rfl
    obtain ⟨-, listing, listed, shows, names⟩ :=
      ((doctor_holidays_agree asked asked').2.2 c found).2 created
    obtain ⟨-, listing', listed', showsJson, -⟩ :=
      ((doctor_holidays_agree asked askedJson).2.2 c found).2 created
    obtain rfl := (Holidays.eq_byDate listed).trans byDate
    obtain rfl := (Holidays.eq_byDate listed').trans byDate
    refine ⟨⟨asked, asked', askedJson⟩, ⟨?_, ?_, ?_⟩, ?_, ?_⟩
    · obtain ⟨drawn, text, cells⟩ := shows.rows rfl (List.cons_ne_nil _ _)
      refine ⟨drawn, text, cells.trans ?_⟩
      decide +kernel
    · intro v
      rw [showsJson.array rfl]
      simp only [List.map_cons, List.map_nil, newYearText, christmasText]
    · obtain ⟨dates, ascending, theirs, line⟩ := names
      obtain rfl : dates = [newYear, christmas] := by
        refine List.Pairwise.eq_of_mem_iff ascending (by decide) fun date => ?_
        simp [theirs, eq_comm]
      rw [line, List.map_cons, List.map_singleton, newYearText, christmasText]
      decide +kernel
    · exact (((doctor_holidays_agree (w := refused) asked asked').2.2 c found).1
        (by rw [file]; rfl)).2
    · have text : Report.causeText (bare.wording.documentError .missing) bare.environment none
          (.notFound (Config.defaultPath bare.environment)) = cause := by
        rw [Report.causeText, path]
        decide +kernel
      rw [← text]
      exact ((doctor_holidays_agree asked asked').2.1 _ absent).2.2.2

end Almanac
