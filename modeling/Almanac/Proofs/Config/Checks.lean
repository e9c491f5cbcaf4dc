import Almanac.Proofs.Config.Document
import Almanac.Proofs.Config.Meaning
import Mathlib.Control.Monad.Basic

/-! What loading checks, and in which order.

Eight things can be wrong with a configuration, and any number of them at once. `Fails` says of each
by itself when it is wrong and with which error, without regard to the others; only a document that
can be read says anything about what comes after it. Loading fails exactly when one of them is
wrong, and reports the first (`load_first_failure`). -/
namespace Almanac.Config

/-! ### Checks -/

/-- What loading checks. -/
inductive Check
  | existence
  | readability
  | document
  | version
  | workDays
  | workHours
  | holidays
  | logFile
deriving DecidableEq

namespace Check

/-- The place of a check in the order of loading, from 0. -/
def place : Check → Nat
  | existence => 0
  | readability => 1
  | document => 2
  | version => 3
  | workDays => 4
  | workHours => 5
  | holidays => 6
  | logFile => 7

/-- Checks are ordered as loading goes through them. -/
instance : LT Check := ⟨fun a b => a.place < b.place⟩

theorem place_injective {a b : Check} : a.place = b.place → a = b := by
  cases a <;> cases b <;> decide

end Check

/-- How a check fails for what was found at a path. -/
inductive Fails (env : Environment) (path : String) (anchor : Date) (contents : Contents) :
    Check → ConfigError → Prop
  | missing : contents = .missing → Fails env path anchor contents .existence (.notFound path)
  | unreadable {reason} : contents = .unreadable reason →
      Fails env path anchor contents .readability (.unreadable path reason)
  /-- The bytes of the file are those of no text. -/
  | noText {data} : contents = .bytes data → (∀ text : String, text.toUTF8 ≠ data) →
      Fails env path anchor contents .readability
        (.unreadable path "stream did not contain valid UTF-8")
  | noDocument {text} : contents = .bytes text.toUTF8 → Toml.parse? text = none →
      Fails env path anchor contents .document (.malformed path)
  | wrongShape {table error} : Decodes contents table → Settings.ofTable table = .error error →
      Fails env path anchor contents .document (.wrongShape path error)
  | version {settings} : Says contents settings → settings.version ≠ 1 →
      Fails env path anchor contents .version (.badVersion settings.version)
  | noWorkDays {settings} : Says contents settings → settings.offDuty.workDays = [] →
      Fails env path anchor contents .workDays .noWorkDays
  | workDay {settings name} : Says contents settings →
      firstUnread? Weekday.ofName? settings.offDuty.workDays = some name →
      Fails env path anchor contents .workDays (.invalidWorkDay name)
  | noWorkHours {settings} : Says contents settings → settings.offDuty.workHours = [] →
      Fails env path anchor contents .workHours .noWorkHours
  | workHours {settings text} : Says contents settings →
      firstUnread? HourInterval.ofText? settings.offDuty.workHours = some text →
      Fails env path anchor contents .workHours (.invalidWorkHours text)
  | holiday {settings error} : Says contents settings →
      FirstRejection anchor settings.offDuty.holidays error.index error.rejection →
      Fails env path anchor contents .holidays (.invalidHoliday path error)
  | logFile {settings written name} : Says contents settings →
      settings.logging.file? = some written → expand env written = .error name →
      Fails env path anchor contents .logFile (.unsetVariable written name)

/-! ### The first failure -/

/-- The first of the checks from a place on that fails. -/
structure FirstFailure (fails : Check → ConfigError → Prop) (start : Nat) (check : Check)
    (error : ConfigError) : Prop where
  reached : start ≤ check.place
  found : fails check error
  earlier : ∀ before < check, start ≤ before.place → ∀ e, ¬ fails before e

/-- A check in front of others fails, or it passes and one of the others is the first to fail. -/
theorem firstFailure_bind {α β : Type} {fails : Check → ConfigError → Prop} {check : Check}
    {x : Except ConfigError α} {f : α → Except ConfigError β} {e : ConfigError}
    (here : ∀ e, x = .error e ↔ fails check e)
    (later : ∀ a, x = .ok a →
      (f a = .error e ↔ ∃ check', FirstFailure fails (check.place + 1) check' e)) :
    x >>= f = .error e ↔ ∃ check', FirstFailure fails check.place check' e := by
  rw [bind_eq_error_iff]
  constructor
  · intro h
    rcases h with failed | ⟨a, passed, failed⟩
    · refine ⟨check, Nat.le_refl _, (here e).1 failed, fun before earlier reached => ?_⟩
      exact absurd earlier (Nat.not_lt.2 reached)
    · obtain ⟨check', reached, found, earlier⟩ := (later a passed).1 failed
      refine ⟨check', Nat.le_of_succ_le reached, found, fun before less reached e' fails' => ?_⟩
      obtain same | after := Nat.eq_or_lt_of_le reached
      · obtain rfl := Check.place_injective same
        cases passed.symm.trans ((here e').2 fails')
      · exact earlier before less after e' fails'
  · intro h
    obtain ⟨check', reached, found, earlier⟩ := h
    obtain same | after := Nat.eq_or_lt_of_le reached
    · obtain rfl := Check.place_injective same
      exact .inl ((here e).2 found)
    · right
      cases result : x with
      | error e' => exact absurd ((here e').1 result) (earlier check after (Nat.le_refl _) e')
      | ok a =>
        refine ⟨a, rfl, (later a result).2 ⟨check', after, found, fun before less reached => ?_⟩⟩
        exact earlier before less (Nat.le_of_succ_le reached)

/-- If any check fails, one of them is the first. -/
theorem exists_firstFailure {fails : Check → ConfigError → Prop} {check : Check} {e : ConfigError}
    (h : fails check e) : ∃ check' e', FirstFailure fails 0 check' e' := by
  by_cases earlier : ∃ before < check, ∃ e', fails before e'
  · obtain ⟨before, less, e', h'⟩ := earlier
    exact exists_firstFailure h'
  · exact ⟨check, e, Nat.zero_le _, h, fun before less _ e' h' => earlier ⟨before, less, e', h'⟩⟩
termination_by check.place
decreasing_by exact less

/-! ### One check at a time -/

section Checks
variable {env : Environment} {path : String} {anchor : Date} {contents : Contents} {e : ConfigError}

theorem fails_existence_iff :
    requireFound path contents = .error e ↔ Fails env path anchor contents .existence e := by
  constructor
  · intro h
    cases contents with
    | missing =>
      obtain rfl := Except.error.inj h
      exact .missing rfl
    | unreadable reason => cases h
    | bytes data => cases h
  · intro h
    cases h with
    | missing found =>
      subst found
      rfl

theorem fails_readability_iff {u : Unit} (found : requireFound path contents = .ok u) :
    textOf path contents = .error e ↔ Fails env path anchor contents .readability e := by
  cases contents with
  | missing => cases found
  | unreadable reason =>
    constructor
    · intro h
      obtain rfl := Except.error.inj h
      exact .unreadable rfl
    · intro h
      cases h with
      | unreadable same =>
        cases same
        rfl
      | noText same => cases same
  | bytes data =>
    rw [textOf_bytes_eq_error_iff]
    constructor
    · rintro ⟨noText, rfl⟩
      exact .noText rfl noText
    · intro h
      cases h with
      | unreadable same => cases same
      | noText same noText =>
        cases same
        exact ⟨noText, rfl⟩

theorem fails_document_iff {text : String} (read : textOf path contents = .ok text) :
    settingsOf path text = .error e ↔ Fails env path anchor contents .document e := by
  obtain rfl := textOf_eq_ok_iff.1 read
  rw [settingsOf_eq_error_iff]
  constructor
  · rintro (⟨none, rfl⟩ | ⟨table, error, parsed, shaped, rfl⟩)
    · exact .noDocument rfl none
    · exact .wrongShape ⟨text, rfl, parsed⟩ shaped
  · intro h
    cases h with
    | noDocument same none =>
      obtain rfl := String.toByteArray_inj.1 (Contents.bytes.inj same)
      exact .inl ⟨none, rfl⟩
    | wrongShape decodes shaped =>
      obtain ⟨text', same, parsed⟩ := decodes
      obtain rfl := String.toByteArray_inj.1 (Contents.bytes.inj same)
      exact .inr ⟨_, _, parsed, shaped, rfl⟩

variable {settings : Settings} (said : Says contents settings)
include said

theorem fails_version_iff : requireVersion settings.version = .error e ↔
    Fails env path anchor contents .version e := by
  rw [requireVersion_eq_error_iff]
  constructor
  · rintro ⟨other, rfl⟩
    exact .version said other
  · intro h
    cases h with
    | version said' other =>
      obtain rfl := said.unique said'
      exact ⟨other, rfl⟩

theorem fails_workDays_iff : readWorkDays settings.offDuty.workDays = .error e ↔
    Fails env path anchor contents .workDays e := by
  rw [readWorkDays_eq, readListed_eq_error_iff]
  constructor
  · rintro (⟨empty, rfl⟩ | ⟨name, unread, rfl⟩)
    · exact .noWorkDays said empty
    · exact .workDay said unread
  · intro h
    cases h with
    | noWorkDays said' empty =>
      obtain rfl := said.unique said'
      exact .inl ⟨empty, rfl⟩
    | workDay said' unread =>
      obtain rfl := said.unique said'
      exact .inr ⟨_, unread, rfl⟩

theorem fails_workHours_iff : readWorkHours settings.offDuty.workHours = .error e ↔
    Fails env path anchor contents .workHours e := by
  rw [readWorkHours_eq, readListed_eq_error_iff]
  constructor
  · rintro (⟨empty, rfl⟩ | ⟨text, unread, rfl⟩)
    · exact .noWorkHours said empty
    · exact .workHours said unread
  · intro h
    cases h with
    | noWorkHours said' empty =>
      obtain rfl := said.unique said'
      exact .inl ⟨empty, rfl⟩
    | workHours said' unread =>
      obtain rfl := said.unique said'
      exact .inr ⟨_, unread, rfl⟩

theorem fails_holidays_iff :
    (Holidays.resolve settings.offDuty.holidays anchor).mapError (.invalidHoliday path) =
        .error e ↔ Fails env path anchor contents .holidays e := by
  simp only [mapError_eq_error_iff, Holidays.resolve_eq_error_iff]
  constructor
  · rintro ⟨error, first, rfl⟩
    exact .holiday said first
  · intro h
    cases h with
    | holiday said' first =>
      obtain rfl := said.unique said'
      exact ⟨_, first, rfl⟩

theorem fails_logFile_iff : readLogging env settings.logging = .error e ↔
    Fails env path anchor contents .logFile e := by
  rw [readLogging_eq_error_iff]
  constructor
  · rintro ⟨written, name, given, unset, rfl⟩
    exact .logFile said given unset
  · intro h
    cases h with
    | logFile said' given unset =>
      obtain rfl := said.unique said'
      exact ⟨_, _, given, unset, rfl⟩

/-- Settings are checked in order. -/
theorem ofSettings_eq_error_iff : ofSettings env path anchor settings = .error e ↔
    ∃ check, FirstFailure (Fails env path anchor contents) Check.version.place check e := by
  rw [ofSettings_eq]
  refine firstFailure_bind (fun _ => fails_version_iff said) fun _ _ => ?_
  refine firstFailure_bind (fun _ => fails_workDays_iff said) fun workDays _ => ?_
  refine firstFailure_bind (fun _ => fails_workHours_iff said) fun workHours _ => ?_
  refine firstFailure_bind (fun _ => fails_holidays_iff said) fun holidays _ => ?_
  refine firstFailure_bind (fun _ => fails_logFile_iff said) fun logging _ => ?_
  -- No check is left.
  constructor
  · intro h
    cases h
  · intro h
    obtain ⟨check, reached, -, -⟩ := h
    cases check <;> exact absurd reached (by decide)

omit said

/-- Everything is checked in order. -/
theorem ofContents_eq_error_iff : ofContents env path anchor contents = .error e ↔
    ∃ check, FirstFailure (Fails env path anchor contents) Check.existence.place check e := by
  rw [ofContents_eq]
  refine firstFailure_bind (fun _ => fails_existence_iff) fun _ found => ?_
  refine firstFailure_bind (fun _ => fails_readability_iff found) fun text read => ?_
  refine firstFailure_bind (fun _ => fails_document_iff read) fun settings made => ?_
  exact ofSettings_eq_error_iff ((says_iff path).2 (bind_eq_ok_iff.2 ⟨text, read, made⟩))

end Checks

/-! ### Loading -/

/-- Whether a list of the off-duty settings has an entry that means nothing. -/
def HasInvalidEntry (anchor : Date) (offDuty : OffDuty) : Prop :=
  (∃ name ∈ offDuty.workDays, Weekday.ofName? name = none) ∨
    (∃ text ∈ offDuty.workHours, HourInterval.ofText? text = none) ∨
      ∃ template ∈ offDuty.holidays, ∃ rejection,
        Template.resolve template anchor = .error rejection

theorem exists_fails_of_invalidEntry {env : Environment} {path : String} {anchor : Date}
    {contents : Contents} {settings : Settings} (said : Says contents settings)
    (invalid : HasInvalidEntry anchor settings.offDuty) :
    ∃ check e, Fails env path anchor contents check e := by
  rcases invalid with day | hours | ⟨template, listed, rejection, rejected⟩
  · obtain ⟨name, first⟩ := exists_firstUnread_iff.2 day
    exact ⟨_, _, .workDay said first⟩
  · obtain ⟨text, first⟩ := exists_firstUnread_iff.2 hours
    exact ⟨_, _, .workHours said first⟩
  · cases resolved : Holidays.resolve settings.offDuty.holidays anchor with
    | error error => exact ⟨_, _, .holiday said (Holidays.resolve_eq_error_iff.1 resolved)⟩
    | ok holidays =>
      obtain ⟨written, named⟩ := Holidays.resolve_eq_ok_iff.1 resolved
      rw [← written] at listed
      obtain ⟨holiday, member, rfl⟩ := List.mem_map.1 listed
      cases (named holiday member).symm.trans rejected

theorem load_eq_error_iff {files : FileSystem} {env : Environment} {path? : Option String}
    {anchor : Date} {e : ConfigError} : load files env path? anchor = .error e ↔
      ∃ check, FirstFailure (Fails env (pathOr env path?) anchor (files.read (pathOr env path?)))
        0 check e :=
  ofContents_eq_error_iff

theorem exists_load_eq_ok_iff {files : FileSystem} {env : Environment} {path? : Option String}
    {anchor : Date} : (∃ c, load files env path? anchor = .ok c) ↔
      ∀ check e, ¬ Fails env (pathOr env path?) anchor (files.read (pathOr env path?)) check e := by
  constructor
  · intro loaded check e found
    obtain ⟨check', e', h⟩ := exists_firstFailure found
    exact exists_error_iff.1 ⟨e', load_eq_error_iff.2 ⟨check', h⟩⟩ loaded
  · intro passes
    cases result : load files env path? anchor with
    | ok c => exact ⟨c, rfl⟩
    | error e =>
      obtain ⟨check, h⟩ := load_eq_error_iff.1 result
      exact absurd h.found (passes check e)

/-- **Loading fails exactly when a check does, and reports the first that does.** So no file with an
invalid entry anywhere in a list yields a configuration. -/
theorem load_first_failure (files : FileSystem) (env : Environment) (path? : Option String)
    (anchor : Date) :
    let path := pathOr env path?
    let fails := Fails env path anchor (files.read path)
    (∀ e, load files env path? anchor = .error e ↔
      ∃ check, fails check e ∧ ∀ before < check, ∀ e', ¬ fails before e') ∧
    ((∃ c, load files env path? anchor = .ok c) ↔ ∀ check e, ¬ fails check e) ∧
    ∀ settings, Says (files.read path) settings → HasInvalidEntry anchor settings.offDuty →
      ∀ c, load files env path? anchor ≠ .ok c := by
  intro path fails
  refine ⟨fun e => load_eq_error_iff.trans (exists_congr fun check => ?_), exists_load_eq_ok_iff,
    fun settings said invalid c loaded => ?_⟩
  · constructor
    · intro h
      exact ⟨h.found, fun before less => h.earlier before less (Nat.zero_le _)⟩
    · intro h
      exact ⟨Nat.zero_le _, h.1, fun before less _ => h.2 before less⟩
  · obtain ⟨check, e, h⟩ := exists_fails_of_invalidEntry said invalid
    exact exists_load_eq_ok_iff.1 ⟨c, loaded⟩ check e h

/-- The second interval ends before it starts, and there is no date of the holiday. Of the two the
hours are reported. -/
theorem load_first_failure_hours :
    let contents := Contents.bytes ("version = 1\n[off_duty]\n" ++
      "work_hours = [\"08-12\", \"12-8\"]\nholidays = [\"2024-02-30\"]").toUTF8
    let files : FileSystem := ⟨fun _ => contents, fun _ => .error (.file "/no/log" "refused")⟩
    let anchor : Date := ⟨2024, 6, 15, by decide⟩
    let offDuty : OffDuty := ⟨OffDuty.default.workDays, ["08-12", "12-8"], ["2024-02-30"]⟩
    load files ⟨[], none⟩ (some "/hld.toml") anchor = .error (.invalidWorkHours "12-8") ∧
      (∃ check, Fails ⟨[], none⟩ "/hld.toml" anchor contents check (.invalidWorkHours "12-8") ∧
        ∀ before < check, ∀ e, ¬ Fails ⟨[], none⟩ "/hld.toml" anchor contents before e) ∧
      Fails ⟨[], none⟩ "/hld.toml" anchor contents .holidays
        (.invalidHoliday "/hld.toml" ⟨0, ⟨"2024-02-30", .noSuchDate 2024 2 30⟩⟩) ∧
      Says contents ⟨1, offDuty, .default⟩ ∧ HasInvalidEntry anchor offDuty ∧
      ∀ c, load files ⟨[], none⟩ (some "/hld.toml") anchor ≠ .ok c := by
  intro contents files anchor offDuty
  have loaded : load files ⟨[], none⟩ (some "/hld.toml") anchor =
      .error (.invalidWorkHours "12-8") := by
    refine map_eq_error_iff.1 (?_ : Except.map (fun _ => ()) _ = _)
    decide +kernel
  have said : Says contents ⟨1, offDuty, .default⟩ := by
    refine (says_iff "").2 ?_
    decide +kernel
  have invalid : HasInvalidEntry anchor offDuty :=
    .inr (.inl ⟨"12-8", by decide, by decide +kernel⟩)
  have rejected : FirstRejection anchor offDuty.holidays 0 ⟨"2024-02-30", .noSuchDate 2024 2 30⟩ :=
    FirstRejection.zero_iff.2 (by decide +kernel)
  obtain ⟨first, -, never⟩ := load_first_failure files ⟨[], none⟩ (some "/hld.toml") anchor
  exact ⟨loaded, (first _).1 loaded, .holiday said rejected, said, invalid, never _ said invalid⟩

end Almanac.Config
