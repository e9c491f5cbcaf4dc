import Almanac.Proofs.Calendar.WeekdayName
import Almanac.Proofs.Config.Loaded
import Almanac.Proofs.OffDuty.Notation
import Mathlib.Data.List.Sort

/-! What the lists of working days and working hours mean.

A list means what its texts mean one by one, as a set: neither their order nor how often or in which
spelling a day or an interval is listed can be told from the configuration
(`ofSettings_of_sameMeaning`). So a day is a working day exactly when some text spells it, and an
hour is one of work exactly when it lies in an interval that some text denotes (`load_as_listed`). A
text without a meaning fails the list, and the first such text is the one reported
(`workHours_notation`). -/
namespace Almanac.Config

/-! ### Lists and their meaning -/

/-- Two lists of texts that all mean something, and together the same. -/
structure SameMeaning {α : Type} (means : String → α → Prop) (texts texts' : List String) :
    Prop where
  left : ∀ text ∈ texts, ∃ a, means text a
  right : ∀ text ∈ texts', ∃ a, means text a
  same : ∀ a, (∃ text ∈ texts, means text a) ↔ ∃ text ∈ texts', means text a

namespace SameMeaning
variable {α : Type} {means : String → α → Prop} {texts texts' : List String}

theorem symm (h : SameMeaning means texts texts') : SameMeaning means texts' texts :=
  ⟨h.right, h.left, fun a => (h.same a).symm⟩

/-- Only the empty list means what the empty list means. -/
theorem eq_nil (h : SameMeaning means texts texts') (empty : texts = []) : texts' = [] := by
  refine List.eq_nil_iff_forall_not_mem.2 fun text member => ?_
  obtain ⟨a, meant⟩ := h.right text member
  obtain ⟨text', none, -⟩ := (h.same a).2 ⟨text, member, meant⟩
  rw [empty] at none
  cases none

end SameMeaning

section ReadListed
variable {α : Type} {missing : ConfigError} {read : String → Option α}
  {unread : String → ConfigError} {means : String → α → Prop}
  {texts texts' : List String} (reads : ∀ text a, read text = some a ↔ means text a)
include reads

/-- What is found in a list is what its texts mean. -/
theorem mem_found_iff {found : List α}
    (h : texts.map read = found.map some) (a : α) : a ∈ found ↔ ∃ text ∈ texts, means text a := by
  have listed : some a ∈ found.map some ↔ some a ∈ texts.map read := by rw [h]
  rw [List.mem_map_of_injective (Option.some_injective α)] at listed
  simp only [listed, List.mem_map, reads]

theorem exists_meaning_of_found {found : List α} (h : texts.map read = found.map some) :
    ∀ text ∈ texts, ∃ a, means text a := by
  intro text member
  have listed : read text ∈ found.map some := h ▸ List.mem_map_of_mem member
  obtain ⟨a, -, read_text⟩ := List.mem_map.1 listed
  exact ⟨a, (reads _ _).1 read_text.symm⟩

theorem exists_found (h : ∀ text ∈ texts, ∃ a, means text a) :
    ∃ found : List α, texts.map read = found.map some := by
  induction texts with
  | nil => exact ⟨[], rfl⟩
  | cons text texts ih =>
    obtain ⟨⟨a, meant⟩, others⟩ := List.forall_mem_cons.1 h
    obtain ⟨found, rest⟩ := ih others
    exact ⟨a :: found, by rw [List.map_cons, List.map_cons, (reads _ _).2 meant, rest]⟩

/-- Lists in which the same things are found mean the same. -/
theorem sameMeaning_of_found {found found' : List α} (h : texts.map read = found.map some)
    (h' : texts'.map read = found'.map some) (shared : ∀ a, a ∈ found ↔ a ∈ found') :
    SameMeaning means texts texts' :=
  ⟨exists_meaning_of_found reads h, exists_meaning_of_found reads h', fun a => by
    rw [← mem_found_iff reads h, ← mem_found_iff reads h', shared]⟩

section Ascending
variable [DecidableEq α] [LE α] [DecidableLE α]

/-- What is made of a list is what its texts mean, and each of its texts means something. -/
theorem mem_readListed {sorted : List α}
    (h : readListed missing read unread ascending texts = .ok sorted) :
    (∀ text ∈ texts, ∃ a, means text a) ∧ ∀ a, a ∈ sorted ↔ ∃ text ∈ texts, means text a := by
  obtain ⟨-, found, read_texts, rfl⟩ := readListed_eq_ok_iff.1 h
  refine ⟨exists_meaning_of_found reads read_texts, fun a => ?_⟩
  rw [mem_ascending, mem_found_iff reads read_texts]

/-- The same is made of lists of the same meaning. -/
theorem readListed_congr [LT α] [Std.IsLinearOrder α] [Std.LawfulOrderLT α]
    (same : SameMeaning means texts texts') :
    readListed missing read unread ascending texts =
      readListed missing read unread ascending texts' := by
  obtain ⟨found, h⟩ := exists_found reads same.left
  obtain ⟨found', h'⟩ := exists_found reads same.right
  by_cases empty : texts = []
  · rw [empty, same.eq_nil empty]
  · have made : readListed missing read unread ascending texts = .ok (ascending found) :=
      readListed_eq_ok_iff.2 ⟨empty, found, h, rfl⟩
    have sorted : ascending found' = ascending found :=
      (pairwise_ascending _).eq_of_mem_iff (pairwise_ascending _) fun a => by
        rw [mem_ascending, mem_ascending, mem_found_iff reads h, mem_found_iff reads h', same.same]
    have made' : readListed missing read unread ascending texts' = .ok (ascending found) :=
      readListed_eq_ok_iff.2 ⟨fun empty' => empty (same.symm.eq_nil empty'), found', h', sorted⟩
    rw [made, made']

end Ascending

end ReadListed

/-! ### Working days and working hours -/

theorem readWorkDays_congr {names names' : List String}
    (same : SameMeaning Weekday.Spells names names') : readWorkDays names = readWorkDays names' := by
  rw [readWorkDays_eq]
  exact readListed_congr (fun _ _ => Weekday.ofName?_eq_some_iff) same

theorem readWorkHours_congr {texts texts' : List String}
    (same : SameMeaning HourInterval.Denotes texts texts') :
    readWorkHours texts = readWorkHours texts' := by
  rw [readWorkHours_eq]
  exact readListed_congr (fun _ _ => HourInterval.ofText?_eq_some_iff) same

/-- The days of a list are those that its texts spell, and each of its texts spells one. -/
theorem mem_readWorkDays {names : List String} {days : List Weekday}
    (h : readWorkDays names = .ok days) : (∀ name ∈ names, ∃ day, Weekday.Spells name day) ∧
      ∀ day, day ∈ days ↔ ∃ name ∈ names, Weekday.Spells name day := by
  rw [readWorkDays_eq] at h
  exact mem_readListed (fun _ _ => Weekday.ofName?_eq_some_iff) h

/-- The intervals of a list are those that its texts denote, and each of its texts denotes one. -/
theorem mem_readWorkHours {texts : List String} {hours : List HourInterval}
    (h : readWorkHours texts = .ok hours) : (∀ text ∈ texts, ∃ i, HourInterval.Denotes text i) ∧
      ∀ i, i ∈ hours ↔ ∃ text ∈ texts, HourInterval.Denotes text i := by
  rw [readWorkHours_eq] at h
  exact mem_readListed (fun _ _ => HourInterval.ofText?_eq_some_iff) h

theorem exists_readWorkDays_iff {names : List String} :
    (∃ days, readWorkDays names = .ok days) ↔
      names ≠ [] ∧ ∀ name ∈ names, ∃ day, Weekday.Spells name day := by
  rw [readWorkDays_eq]
  simp only [readListed_eq_ok_iff]
  constructor
  · rintro ⟨days, listed, found, read, -⟩
    exact ⟨listed, exists_meaning_of_found (fun _ _ => Weekday.ofName?_eq_some_iff) read⟩
  · rintro ⟨listed, spelled⟩
    obtain ⟨found, read⟩ := exists_found (fun _ _ => Weekday.ofName?_eq_some_iff) spelled
    exact ⟨_, listed, found, read, rfl⟩

/-- The first text that denotes no interval is the one reported. -/
theorem readWorkHours_of_first {before after : List String} {text : String}
    (fine : ∀ earlier ∈ before, ∃ i, HourInterval.Denotes earlier i)
    (bad : ¬ ∃ i, HourInterval.Denotes text i) :
    readWorkHours (before ++ text :: after) = .error (.invalidWorkHours text) := by
  rw [readWorkHours_eq, readListed_eq_error_iff]
  refine .inr ⟨text, List.find?_eq_some_iff_append.2 ⟨?_, before, after, rfl, ?_⟩, rfl⟩
  · rw [Option.isNone_iff_eq_none, HourInterval.ofText?_eq_none_iff]
    exact bad
  · intro earlier member
    obtain ⟨i, denoted⟩ := fine earlier member
    rw [HourInterval.ofText?_eq_some_iff.2 denoted]
    rfl

/-! ### Loading -/

theorem isWorkHour_iff {c : Config} {hour : Nat} :
    c.isWorkHour hour = true ↔ ∃ i ∈ c.workHours, i.start ≤ hour ∧ hour < i.stop := by
  simp only [isWorkHour, List.any_eq_true, HourInterval.contains_iff]

/-- Off-duty settings with other lists of days and hours. -/
def OffDuty.withTimes (offDuty : OffDuty) (names texts : List String) : OffDuty :=
  { offDuty with workDays := names, workHours := texts }

/-- Settings with other lists of days and hours. -/
def Settings.withTimes (settings : Settings) (names texts : List String) : Settings :=
  { settings with offDuty := settings.offDuty.withTimes names texts }

/-- Settings that differ in their lists of days and hours, but not in what these mean, make the same
configuration. -/
theorem ofSettings_of_sameMeaning {env : Environment} {path path' : String} {anchor : Date}
    {settings : Settings} {c : Config} (h : ofSettings env path anchor settings = .ok c)
    {names texts : List String}
    (days : SameMeaning Weekday.Spells settings.offDuty.workDays names)
    (hours : SameMeaning HourInterval.Denotes settings.offDuty.workHours texts) :
    ofSettings env path' anchor (settings.withTimes names texts) = .ok c := by
  obtain ⟨version, anchored, workDays, workHours, others⟩ := ofSettings_eq_ok_iff.1 h
  rw [readWorkDays_congr days] at workDays
  rw [readWorkHours_congr hours] at workHours
  exact ofSettings_eq_ok_iff.2 ⟨version, anchored, workDays, workHours, others⟩

/-- **Days and hours are as listed.** A day is a working day when a text of the file spells it, and
an hour one of work when it lies in an interval that a text of the file denotes, and no text does
anything else. So a file that lists the same days and the same intervals, in whatever order and
spelling and however often, is the same configuration. -/
theorem load_as_listed {files : FileSystem} {env : Environment} {path? : Option String}
    {anchor : Date} {c : Config} (h : load files env path? anchor = .ok c) :
    ∃ settings, Says (files.read (pathOr env path?)) settings ∧
      (∀ name ∈ settings.offDuty.workDays, ∃ day, Weekday.Spells name day) ∧
      (∀ text ∈ settings.offDuty.workHours, ∃ i, HourInterval.Denotes text i) ∧
      (∀ day, c.isWorkDay day = true ↔
        ∃ name ∈ settings.offDuty.workDays, Weekday.Spells name day) ∧
      (∀ hour, c.isWorkHour hour = true ↔ ∃ text ∈ settings.offDuty.workHours,
        ∃ i, HourInterval.Denotes text i ∧ i.start ≤ hour ∧ hour < i.stop) ∧
      ∀ (files' : FileSystem) (path'? : Option String) (names texts : List String),
        Says (files'.read (pathOr env path'?)) (settings.withTimes names texts) →
        SameMeaning Weekday.Spells settings.offDuty.workDays names →
        SameMeaning HourInterval.Denotes settings.offDuty.workHours texts →
        load files' env path'? anchor = .ok c := by
  obtain ⟨settings, said, meant⟩ := load_eq_ok_iff.1 h
  obtain ⟨-, -, workDays, workHours, -⟩ := ofSettings_eq_ok_iff.1 meant
  obtain ⟨spelled, days⟩ := mem_readWorkDays workDays
  obtain ⟨denoted, hours⟩ := mem_readWorkHours workHours
  refine ⟨settings, said, spelled, denoted, fun day => ?_, fun hour => ?_, ?_⟩
  · rw [isWorkDay, List.contains_iff_mem, days]
  · simp only [isWorkHour_iff, hours]
    constructor
    · rintro ⟨i, ⟨text, member, meant⟩, within⟩
      exact ⟨text, member, i, meant, within⟩
    · rintro ⟨text, member, i, meant, within⟩
      exact ⟨i, ⟨text, member, meant⟩, within⟩
  · intro files' path'? names texts said' sameDays sameHours
    exact load_eq_ok_iff.2 ⟨_, said', ofSettings_of_sameMeaning meant sameDays sameHours⟩

/-- Two days and two intervals, listed twice in different ways. -/
theorem load_as_listed_respelled :
    let anchor : Date := ⟨2024, 6, 15, by decide⟩
    let contents := Contents.bytes ("version = 1\n[off_duty]\n" ++
      "work_days = [\"Friday\", \"mon\"]\nwork_hours = [\"08-12\", \"10-17\"]").toUTF8
    let contents' := Contents.bytes ("version = 1\n[off_duty]\n" ++
      "work_days = [\" MON\", \"fri\", \"Monday\"]\n" ++
      "work_hours = [\"10 - 17\", \" 8-12\", \"10-17\"]").toUTF8
    let c : Config := ⟨anchor, [.monday, .friday], [⟨8, 12⟩, ⟨10, 17⟩], ⟨[]⟩, .default⟩
    load ⟨fun _ => contents, fun _ => .ok ()⟩ ⟨[], none⟩ (some "/hld.toml") anchor = .ok c ∧
      (∀ day, c.isWorkDay day = true ↔
        ∃ name ∈ ["Friday", "mon"], Weekday.Spells name day) ∧
      (∀ hour, c.isWorkHour hour = true ↔ ∃ text ∈ ["08-12", "10-17"],
        ∃ i, HourInterval.Denotes text i ∧ i.start ≤ hour ∧ hour < i.stop) ∧
      SameMeaning Weekday.Spells ["Friday", "mon"] [" MON", "fri", "Monday"] ∧
      SameMeaning HourInterval.Denotes ["08-12", "10-17"] ["10 - 17", " 8-12", "10-17"] ∧
      load ⟨fun _ => contents', fun _ => .ok ()⟩ ⟨[], none⟩ (some "/other.toml") anchor = .ok c := by
  intro anchor contents contents' c
  let settings : Settings := ⟨1, ⟨["Friday", "mon"], ["08-12", "10-17"], []⟩, .default⟩
  have said : Says contents settings := (says_iff "").2 (by decide +kernel)
  have said' : Says contents'
      (settings.withTimes [" MON", "fri", "Monday"] ["10 - 17", " 8-12", "10-17"]) :=
    (says_iff "").2 (by decide +kernel)
  have days : readWorkDays settings.offDuty.workDays = .ok c.workDays := by
    rw [readWorkDays_eq_filter]
    decide +kernel
  have hours : readWorkHours settings.offDuty.workHours = .ok c.workHours := by
    rw [readWorkHours_eq]
    refine readListed_eq_ok_iff.2 ⟨by decide, [⟨8, 12⟩, ⟨10, 17⟩], by decide +kernel, ?_⟩
    simp +decide [c, ascending, List.mergeSort, dropRepeats]
  have meant : ofSettings ⟨[], none⟩ "/hld.toml" anchor settings = .ok c :=
    ofSettings_eq_ok_iff.2 ⟨rfl, rfl, days, hours, by decide +kernel, by decide +kernel⟩
  have spelled : ["Friday", "mon"].map Weekday.ofName? = [.friday, .monday].map some := by
    decide +kernel
  have spelled' : [" MON", "fri", "Monday"].map Weekday.ofName? =
      [.monday, .friday, .monday].map some := by decide +kernel
  have sameDays := sameMeaning_of_found (fun _ _ => Weekday.ofName?_eq_some_iff) spelled spelled'
    (fun day => by cases day <;> decide)
  have denoted : ["08-12", "10-17"].map HourInterval.ofText? = [⟨8, 12⟩, ⟨10, 17⟩].map some := by
    decide +kernel
  have denoted' : ["10 - 17", " 8-12", "10-17"].map HourInterval.ofText? =
      [⟨10, 17⟩, ⟨8, 12⟩, ⟨10, 17⟩].map some := by decide +kernel
  have sameHours := sameMeaning_of_found (fun _ _ => HourInterval.ofText?_eq_some_iff) denoted
    denoted' (by grind)
  have loaded : load ⟨fun _ => contents, fun _ => .ok ()⟩ ⟨[], none⟩ (some "/hld.toml") anchor =
      .ok c :=
    load_eq_ok_iff.2 ⟨settings, said, meant⟩
  obtain ⟨found, said'', -, -, isWorkDay, isWorkHour, again⟩ := load_as_listed loaded
  obtain rfl := said''.unique said
  exact ⟨loaded, isWorkDay, isWorkHour, sameDays, sameHours,
    again ⟨fun _ => contents', fun _ => .ok ()⟩ (some "/other.toml") _ _ said' sameDays sameHours⟩

/-- Working hours that cannot be read are reported when nothing that is checked before them is
wrong. -/
theorem ofSettings_eq_invalidWorkHours_iff {env : Environment} {path : String} {anchor : Date}
    {settings : Settings} {text : String}
    (unread : readWorkHours settings.offDuty.workHours = .error (.invalidWorkHours text)) :
    ofSettings env path anchor settings = .error (.invalidWorkHours text) ↔
      settings.version = 1 ∧ ∃ days, readWorkDays settings.offDuty.workDays = .ok days := by
  have version {e : ConfigError} (h : requireVersion settings.version = .error e) :
      e ≠ .invalidWorkHours text := by
    obtain ⟨-, rfl⟩ := requireVersion_eq_error_iff.1 h
    intro same
    cases same
  have days {e : ConfigError} (h : readWorkDays settings.offDuty.workDays = .error e) :
      e ≠ .invalidWorkHours text := by
    rw [readWorkDays_eq, readListed_eq_error_iff] at h
    intro same
    rcases h with ⟨-, rfl⟩ | ⟨name, -, rfl⟩
    · cases same
    · cases same
  rw [ofSettings_eq, bind_eq_error_iff]
  constructor
  · rintro (other | ⟨_, known, h⟩)
    · exact absurd rfl (version other)
    · refine ⟨requireVersion_eq_ok_iff.1 known, ?_⟩
      rcases bind_eq_error_iff.1 h with other | ⟨found, read, -⟩
      · exact absurd rfl (days other)
      · exact ⟨found, read⟩
  · rintro ⟨known, found, read⟩
    refine .inr ⟨(), requireVersion_eq_ok_iff.2 known, bind_eq_error_iff.2 (.inr ⟨found, read, ?_⟩)⟩
    exact bind_eq_error_iff.2 (.inl unread)

/-- **How working hours are written, and what becomes of other texts.** A text is read as the
interval that it denotes, and not at all when it denotes none. The first text of a list that denotes
none is the error of the list, word for word; no such file loads, and this is the error of loading
unless the version or the working days are wrong, which come first. -/
theorem workHours_notation :
    (∀ s i, HourInterval.ofText? s = some i ↔ HourInterval.Denotes s i) ∧
      (∀ s, HourInterval.ofText? s = none ↔ ¬ ∃ i, HourInterval.Denotes s i) ∧
      ∀ (files : FileSystem) (env : Environment) (path? : Option String) (anchor : Date)
        (settings : Settings) (before : List String) (text : String) (after : List String),
        Says (files.read (pathOr env path?)) settings →
        settings.offDuty.workHours = before ++ text :: after →
        (∀ earlier ∈ before, ∃ i, HourInterval.Denotes earlier i) →
        (¬ ∃ i, HourInterval.Denotes text i) →
        readWorkHours settings.offDuty.workHours = .error (.invalidWorkHours text) ∧
          (∀ c, load files env path? anchor ≠ .ok c) ∧
          (load files env path? anchor = .error (.invalidWorkHours text) ↔
            settings.version = 1 ∧ settings.offDuty.workDays ≠ [] ∧
              ∀ name ∈ settings.offDuty.workDays, ∃ day, Weekday.Spells name day) := by
  refine ⟨fun _ _ => HourInterval.ofText?_eq_some_iff, fun _ => HourInterval.ofText?_eq_none_iff, ?_⟩
  intro files env path? anchor settings before text after said listed fine bad
  have unread : readWorkHours settings.offDuty.workHours = .error (.invalidWorkHours text) := by
    rw [listed]
    exact readWorkHours_of_first fine bad
  refine ⟨unread, fun c loaded => ?_, ?_⟩
  · obtain ⟨settings', said', meant⟩ := load_eq_ok_iff.1 loaded
    obtain rfl := said.unique said'
    obtain ⟨-, -, -, read, -⟩ := ofSettings_eq_ok_iff.1 meant
    cases unread.symm.trans read
  · rw [load, said.ofContents_eq, ofSettings_eq_invalidWorkHours_iff unread,
      exists_readWorkDays_iff]

/-- The first of two intervals that end before they start. -/
theorem workHours_notation_inverted :
    let contents := Contents.bytes
      "version = 1\noff_duty.work_hours = [\"8 - 12\", \"17-13\", \"9-8\"]".toUTF8
    let files : FileSystem := ⟨fun _ => contents, fun _ => .ok ()⟩
    let anchor : Date := ⟨2024, 6, 15, by decide⟩
    HourInterval.Denotes "8 - 12" ⟨8, 12⟩ ∧ (¬ ∃ i, HourInterval.Denotes "17-13" i) ∧
      load files ⟨[], none⟩ (some "/hld.toml") anchor = .error (.invalidWorkHours "17-13") := by
  intro contents files anchor
  let settings : Settings :=
    ⟨1, ⟨OffDuty.default.workDays, ["8 - 12", "17-13", "9-8"], []⟩, .default⟩
  have said : Says contents settings := (says_iff "").2 (by decide +kernel)
  obtain ⟨denotes, unread, first⟩ := workHours_notation
  have morning : HourInterval.Denotes "8 - 12" ⟨8, 12⟩ := (denotes _ _).1 (by decide +kernel)
  have inverted : ¬ ∃ i, HourInterval.Denotes "17-13" i := (unread _).1 (by decide +kernel)
  have days : readWorkDays settings.offDuty.workDays =
      .ok [.monday, .tuesday, .wednesday, .thursday, .friday] := by
    rw [readWorkDays_eq_filter]
    decide +kernel
  obtain ⟨-, -, reported⟩ := first files ⟨[], none⟩ (some "/hld.toml") anchor settings ["8 - 12"]
    "17-13" ["9-8"] said rfl (List.forall_mem_singleton.2 ⟨_, morning⟩) inverted
  exact ⟨morning, inverted, reported.2 ⟨rfl, exists_readWorkDays_iff.1 ⟨_, days⟩⟩⟩

/-- The version is checked first: of a file with another version, no interval is reported. -/
theorem not_workHours_before_version :
    let contents := Contents.bytes "version = 2\noff_duty.work_hours = [\"17-13\"]".toUTF8
    let files : FileSystem := ⟨fun _ => contents, fun _ => .ok ()⟩
    let anchor : Date := ⟨2024, 6, 15, by decide⟩
    (∃ settings, Says contents settings ∧ settings.offDuty.workHours = ["17-13"]) ∧
      (¬ ∃ i, HourInterval.Denotes "17-13" i) ∧
      load files ⟨[], none⟩ (some "/hld.toml") anchor = .error (.badVersion 2) ∧
      load files ⟨[], none⟩ (some "/hld.toml") anchor ≠ .error (.invalidWorkHours "17-13") := by
  intro contents files anchor
  let settings : Settings := ⟨2, ⟨OffDuty.default.workDays, ["17-13"], []⟩, .default⟩
  have said : Says contents settings := (says_iff "").2 (by decide +kernel)
  have inverted : ¬ ∃ i, HourInterval.Denotes "17-13" i :=
    HourInterval.ofText?_eq_none_iff.1 (by decide +kernel)
  have loaded : load files ⟨[], none⟩ (some "/hld.toml") anchor = .error (.badVersion 2) :=
    said.ofContents_eq ⟨[], none⟩ "/hld.toml" anchor
  refine ⟨⟨settings, said, rfl⟩, inverted, loaded, fun same => ?_⟩
  cases loaded.symm.trans same

end Almanac.Config
