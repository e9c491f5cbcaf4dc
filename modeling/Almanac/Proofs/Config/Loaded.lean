import Almanac.Proofs.Config.Document
import Almanac.Proofs.Config.Meaning
import Almanac.Proofs.Config.Settings
import Almanac.Proofs.OffDuty.Order
import Mathlib.Control.Monad.Basic

/-! What every configuration has in common.

Loading sorts the working days and the working hours and drops what repeats, checks every interval
and resolves every template against its anchor. So a configuration that was loaded is `WellFormed`,
however many days, hours and templates its file lists, and in whatever order and spelling; and it
holds the templates as the file has them (`load_wellFormed`). -/
namespace Almanac.Config

/-- What holds of a configuration whichever file it was made from. -/
structure WellFormed (c : Config) : Prop where
  workDays_ne_nil : c.workDays ≠ []
  /-- Monday comes first, and no day twice. -/
  workDays_ordered : c.workDays.Pairwise (· < ·)
  workHours_ne_nil : c.workHours ≠ []
  /-- The least start comes first, of one start the least end, and no interval twice. -/
  workHours_ordered : c.workHours.Pairwise (· < ·)
  workHours_within : ∀ hours ∈ c.workHours, hours.start < hours.stop ∧ hours.stop ≤ 24
  holidays_resolved : ∀ holiday ∈ c.holidays.entries,
    Template.resolve holiday.template c.anchor = .ok holiday.date

namespace WellFormed
variable {c : Config} (h : c.WellFormed)
include h

theorem exists_isWorkHour : ∃ hour < 24, c.isWorkHour hour = true := by
  obtain ⟨hours, member⟩ := List.exists_mem_of_ne_nil _ h.workHours_ne_nil
  obtain ⟨proper, last⟩ := h.workHours_within hours member
  refine ⟨hours.start, Nat.lt_of_lt_of_le proper last, List.any_eq_true.2 ⟨hours, member, ?_⟩⟩
  exact HourInterval.contains_iff.2 ⟨Nat.le_refl _, proper⟩

theorem isWorkHour_eq_false {hour : Nat} (late : 24 ≤ hour) : c.isWorkHour hour = false := by
  refine List.any_eq_false.2 fun hours member within => ?_
  have before := (HourInterval.contains_iff.1 within).2
  have last := (h.workHours_within hours member).2
  omega

end WellFormed

/-! ### Working days and working hours -/

/-- What is made of a list is in order, and there is something in it. -/
theorem readListed_ordered {α : Type} [DecidableEq α] [LE α] [DecidableLE α] [LT α]
    [Std.IsLinearOrder α] [Std.LawfulOrderLT α] {missing : ConfigError} {read : String → Option α}
    {unread : String → ConfigError} {texts : List String} {sorted : List α}
    (h : readListed missing read unread ascending texts = .ok sorted) :
    sorted ≠ [] ∧ sorted.Pairwise (· < ·) := by
  obtain ⟨listed, found, read, rfl⟩ := readListed_eq_ok_iff.1 h
  refine ⟨?_, pairwise_ascending found⟩
  cases found with
  | nil => exact absurd (List.map_eq_nil_iff.1 read) listed
  | cons a found => exact List.ne_nil_of_mem (mem_ascending.2 List.mem_cons_self)

theorem readWorkDays_ordered {names : List String} {days : List Weekday}
    (h : readWorkDays names = .ok days) : days ≠ [] ∧ days.Pairwise (· < ·) :=
  readListed_ordered (readWorkDays_eq ▸ h)

theorem readWorkHours_ordered {texts : List String} {hours : List HourInterval}
    (h : readWorkHours texts = .ok hours) : hours ≠ [] ∧ hours.Pairwise (· < ·) ∧
      ∀ interval ∈ hours, interval.start < interval.stop ∧ interval.stop ≤ 24 := by
  rw [readWorkHours_eq] at h
  obtain ⟨someHours, ordered⟩ := readListed_ordered h
  refine ⟨someHours, ordered, fun interval member => ?_⟩
  obtain ⟨-, found, read, rfl⟩ := readListed_eq_ok_iff.1 h
  have member : some interval ∈ texts.map HourInterval.ofText? := by
    rw [read]
    exact List.mem_map_of_mem (mem_ascending.1 member)
  obtain ⟨text, -, read⟩ := List.mem_map.1 member
  exact HourInterval.bounds_of_ofText? read

/-! ### Loading -/

theorem wellFormed_of_ofSettings {env : Environment} {path : String} {anchor : Date}
    {settings : Settings} {c : Config} (h : ofSettings env path anchor settings = .ok c) :
    c.WellFormed := by
  obtain ⟨-, rfl, days, hours, holidays, -⟩ := ofSettings_eq_ok_iff.1 h
  obtain ⟨someDay, daysOrdered⟩ := readWorkDays_ordered days
  obtain ⟨someHours, hoursOrdered, within⟩ := readWorkHours_ordered hours
  obtain ⟨-, resolved⟩ := Holidays.resolve_eq_ok_iff.1 holidays
  exact ⟨someDay, daysOrdered, someHours, hoursOrdered, within, resolved⟩

/-- The path of the log file is expanded, but neither made up nor dropped. -/
theorem readLogging_isSome {env : Environment} {logging found : Logging}
    (h : readLogging env logging = .ok found) : found.file?.isSome = logging.file?.isSome := by
  rcases readLogging_eq_ok_iff.1 h with ⟨-, rfl⟩ | ⟨written, expanded, given, -, rfl⟩
  · rfl
  · rw [given]
    rfl

/-- **A configuration that was loaded is well-formed, and true to its file.** It is seen from the
anchor, there is an hour of work in the day and none past it, the holidays are those that the file
lists, repetitions and order included, and there is a log file if and only if the file names one. -/
theorem load_wellFormed {files : FileSystem} {env : Environment} {path? : Option String}
    {anchor : Date} {c : Config} (h : load files env path? anchor = .ok c) :
    c.anchor = anchor ∧ c.WellFormed ∧
      (∃ hour < 24, c.isWorkHour hour = true) ∧ (∀ hour ≥ 24, c.isWorkHour hour = false) ∧
      ∃ document, Decodes (files.read (pathOr env path?)) document ∧
        (given? OffDuty.names "off_duty" "holidays" document).getD (.array []) =
          .array (c.holidays.templates.map .string) ∧
        (c.logging.file?.isSome = true ↔
          (given? Logging.names "logging" "file" document).isSome = true) := by
  obtain ⟨settings, ⟨document, decodes, shaped⟩, meant⟩ := load_eq_ok_iff.1 h
  have wellFormed := wellFormed_of_ofSettings meant
  obtain ⟨-, anchored, -, -, holidays, logging⟩ := ofSettings_eq_ok_iff.1 meant
  obtain ⟨templates, -⟩ := Holidays.resolve_eq_ok_iff.1 holidays
  refine ⟨anchored, wellFormed, wellFormed.exists_isWorkHour,
    fun hour late => wellFormed.isWorkHour_eq_false late, document, decodes, ?_, ?_⟩
  · rw [templates]
    exact Settings.holidays_given shaped
  · rw [readLogging_isSome logging, Settings.file_given shaped, Option.isSome_map]

/-- Days, hours and templates that repeat, out of order and in several spellings. -/
theorem load_wellFormed_repeats :
    let contents := Contents.bytes ("version = 1\n[off_duty]\n" ++
      "work_days = [\"FRI\", \"Monday\", \"fri\"]\n" ++
      "work_hours = [\"13-17\", \" 8 - 12\", \"08-12\"]\n" ++
      "holidays = [\"YEAR-12-25\", \"YEAR-01-01\", \"YEAR-12-25\"]\n" ++
      "[logging]\nfile = \"$HOME/hld.log\"").toUTF8
    let files : FileSystem := ⟨fun _ => contents, fun _ => .ok ()⟩
    let env : Environment := ⟨[("HOME", "/home")], none⟩
    let anchor : Date := ⟨2024, 6, 15, by decide⟩
    let christmas : Holiday := ⟨"YEAR-12-25", ⟨2024, 12, 25, by decide⟩⟩
    let c : Config := ⟨anchor, [.monday, .friday], [⟨8, 12⟩, ⟨13, 17⟩],
      ⟨[christmas, ⟨"YEAR-01-01", ⟨2024, 1, 1, by decide⟩⟩, christmas]⟩,
      ⟨"info", none, some "/home/hld.log"⟩⟩
    load files env (some "/hld.toml") anchor = .ok c ∧ c.WellFormed ∧
      (∃ hour < 24, c.isWorkHour hour = true) ∧ (∀ hour ≥ 24, c.isWorkHour hour = false) ∧
      ∃ document, Decodes contents document ∧
        (given? OffDuty.names "off_duty" "holidays" document).getD (.array []) =
          .array [.string "YEAR-12-25", .string "YEAR-01-01", .string "YEAR-12-25"] ∧
        (given? Logging.names "logging" "file" document).isSome = true := by
  intro contents files env anchor christmas c
  let offDuty : OffDuty := ⟨["FRI", "Monday", "fri"], ["13-17", " 8 - 12", "08-12"],
    ["YEAR-12-25", "YEAR-01-01", "YEAR-12-25"]⟩
  let settings : Settings := ⟨1, offDuty, ⟨"info", none, some "$HOME/hld.log"⟩⟩
  have said : Says contents settings := by
    refine (says_iff "").2 ?_
    decide +kernel
  have days : readWorkDays offDuty.workDays = .ok c.workDays := by
    rw [readWorkDays_eq_filter]
    decide +kernel
  have hours : readWorkHours offDuty.workHours = .ok c.workHours := by
    rw [readWorkHours_eq]
    refine readListed_eq_ok_iff.2 ⟨by decide, [⟨13, 17⟩, ⟨8, 12⟩, ⟨8, 12⟩], by decide +kernel, ?_⟩
    simp +decide [c, ascending, List.mergeSort, dropRepeats]
  have holidays : Holidays.resolve offDuty.holidays anchor = .ok c.holidays := by decide +kernel
  have logging : readLogging env settings.logging = .ok c.logging := by decide +kernel
  have meant : ofSettings env "/hld.toml" anchor settings = .ok c :=
    ofSettings_eq_ok_iff.2 ⟨rfl, rfl, days, hours, holidays, logging⟩
  have loaded : load files env (some "/hld.toml") anchor = .ok c :=
    load_eq_ok_iff.2 ⟨settings, said, meant⟩
  obtain ⟨-, wellFormed, early, late, document, decodes, templates, file⟩ := load_wellFormed loaded
  exact ⟨loaded, wellFormed, early, late, document, decodes, templates, file.1 rfl⟩

end Almanac.Config
