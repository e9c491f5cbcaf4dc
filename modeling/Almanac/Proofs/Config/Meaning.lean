import Almanac.Config.Load
import Almanac.Proofs.Holiday.Resolution
import Almanac.Proofs.OffDuty.Order

/-! What settings mean, and when they mean nothing.

The working days and the working hours are lists of texts, and each text has to be read; of several
that cannot, the first is reported (`firstUnread?`). `ofSettings_eq_ok_iff` says of settings as a
whole what they have to be, and what the configuration that they make holds. -/
namespace Almanac.Config

/-! ### Lists of texts -/

/-- The first text of a list that cannot be read. -/
def firstUnread? {α : Type} (read : String → Option α) (texts : List String) : Option String :=
  texts.find? fun text => (read text).isNone

theorem exists_firstUnread_iff {α : Type} {read : String → Option α} {texts : List String} :
    (∃ text, firstUnread? read texts = some text) ↔ ∃ text ∈ texts, read text = none := by
  rw [← Option.isSome_iff_exists, firstUnread?, List.find?_isSome]
  simp

/-- Texts read one by one, each of which has an error of its own. -/
def readEach {α : Type} (read : String → Option α) (unread : String → ConfigError)
    (texts : List String) : Except ConfigError (List α) :=
  texts.mapM fun text =>
    match read text with
    | some a => .ok a
    | none => .error (unread text)

section ReadEach
variable {α : Type} {read : String → Option α} {unread : String → ConfigError}
  {texts : List String}

theorem readEach_eq_error_iff {e : ConfigError} : readEach read unread texts = .error e ↔
    ∃ text, firstUnread? read texts = some text ∧ e = unread text := by
  have unreadable (text : String) : (read text).isNone = true ↔ ∃ e,
      (match read text with
        | some a => Except.ok a
        | none => .error (unread text)) = .error e := by
    cases read text with
    | none => simp
    | some a => simp
  rw [readEach, mapM_eq_error_iff unreadable]
  refine exists_congr fun text => and_congr_right fun found => ?_
  have none : read text = none := by simpa using List.find?_some found
  rw [none, Except.error.injEq, eq_comm]

theorem readEach_eq_ok_iff {found : List α} :
    readEach read unread texts = .ok found ↔ texts.map read = found.map some := by
  rw [readEach, mapM_eq_ok_iff]
  induction texts generalizing found with
  | nil => simp [eq_comm (a := [])]
  | cons text texts ih =>
    cases found with
    | nil => simp
    | cons a found =>
      rw [List.map_cons, List.map_cons, List.map_cons, List.map_cons, List.cons.injEq,
        List.cons.injEq, ih]
      refine and_congr_left' ?_
      cases read text with
      | none => simp
      | some b => simp

end ReadEach

/-- Texts of which there has to be one at least, and what is made of them when all are read. -/
def readListed {α β : Type} (missing : ConfigError) (read : String → Option α)
    (unread : String → ConfigError) (make : List α → β) (texts : List String) :
    Except ConfigError β :=
  if texts.isEmpty then .error missing
  else readEach read unread texts >>= fun found => .ok (make found)

section ReadListed
variable {α β : Type} {missing : ConfigError} {read : String → Option α}
  {unread : String → ConfigError} {make : List α → β} {texts : List String}

theorem readListed_eq_error_iff {e : ConfigError} :
    readListed missing read unread make texts = .error e ↔ texts = [] ∧ e = missing ∨
      ∃ text, firstUnread? read texts = some text ∧ e = unread text := by
  cases texts with
  | nil => simp [readListed, firstUnread?, eq_comm (a := e)]
  | cons text texts =>
    have step : readListed missing read unread make (text :: texts) = .error e ↔
        readEach read unread (text :: texts) = .error e := by
      show (readEach read unread (text :: texts) >>= fun found => _) = _ ↔ _
      rw [bind_eq_error_iff]
      simp
    rw [step, readEach_eq_error_iff]
    simp

theorem readListed_eq_ok_iff {b : β} : readListed missing read unread make texts = .ok b ↔
    texts ≠ [] ∧ ∃ found, texts.map read = found.map some ∧ make found = b := by
  cases texts with
  | nil => simp [readListed]
  | cons text texts =>
    show (readEach read unread (text :: texts) >>= fun found => _) = _ ↔ _
    rw [bind_eq_ok_iff, and_iff_right (List.cons_ne_nil _ _)]
    simp only [readEach_eq_ok_iff, Except.ok.injEq]

end ReadListed

/-! ### Working days and working hours -/

theorem readWorkDays_eq :
    readWorkDays = readListed .noWorkDays Weekday.ofName? .invalidWorkDay ascending := by
  funext names
  unfold readWorkDays readListed readEach
  congr 3
  funext name
  cases Weekday.ofName? name with
  | none => rfl
  | some day => rfl

/-- The days of the week in order, those that are named. -/
theorem readWorkDays_eq_filter :
    readWorkDays = readListed .noWorkDays Weekday.ofName? .invalidWorkDay
      fun days => Weekday.all.filter days.contains := by
  rw [readWorkDays_eq, funext Weekday.ascending_eq_filter]

theorem readWorkHours_eq : readWorkHours =
    readListed .noWorkHours HourInterval.ofText? .invalidWorkHours ascending := by
  funext texts
  unfold readWorkHours readListed readEach
  congr 3
  funext text
  cases HourInterval.ofText? text with
  | none => rfl
  | some interval => rfl

/-! ### The log file -/

theorem readLogging_eq_error_iff {env : Environment} {logging : Logging} {e : ConfigError} :
    readLogging env logging = .error e ↔ ∃ written name, logging.file? = some written ∧
      expand env written = .error name ∧ e = .unsetVariable written name := by
  obtain ⟨level, fileLevel?, _ | written⟩ := logging
  · simp [readLogging]
  · simp only [readLogging]
    cases found : expand env written with
    | ok expanded => simp [found]
    | error name => simp [found, eq_comm (a := e)]

/-- Only the path of the log file is changed, and only when there is one. -/
theorem readLogging_eq_ok_iff {env : Environment} {logging found : Logging} :
    readLogging env logging = .ok found ↔ logging.file? = none ∧ found = logging ∨
      ∃ written expanded, logging.file? = some written ∧ expand env written = .ok expanded ∧
        found = { logging with file? := some expanded } := by
  obtain ⟨level, fileLevel?, _ | written⟩ := logging
  · simp [readLogging, eq_comm (a := found)]
  · simp only [readLogging]
    cases result : expand env written with
    | ok expanded => simp [result, eq_comm (a := found)]
    | error name => simp [result]

/-! ### All settings -/

/-- Whether the version is the one that is known. -/
def requireVersion (version : Nat) : Except ConfigError Unit :=
  if version ≠ 1 then .error (.badVersion version) else .ok ()

theorem requireVersion_eq_error_iff {version : Nat} {e : ConfigError} :
    requireVersion version = .error e ↔ version ≠ 1 ∧ e = .badVersion version := by
  unfold requireVersion
  split
  · next other => simp [other, eq_comm (a := e)]
  · next known => simp [known]

theorem requireVersion_eq_ok_iff {version : Nat} {u : Unit} :
    requireVersion version = .ok u ↔ version = 1 := by
  simp [requireVersion]

/-- The settings are given their meaning one after the other. -/
theorem ofSettings_eq (env : Environment) (path : String) (anchor : Date) (settings : Settings) :
    ofSettings env path anchor settings =
      requireVersion settings.version >>= fun _ =>
        readWorkDays settings.offDuty.workDays >>= fun workDays =>
          readWorkHours settings.offDuty.workHours >>= fun workHours =>
            (Holidays.resolve settings.offDuty.holidays anchor).mapError (.invalidHoliday path) >>=
              fun holidays => readLogging env settings.logging >>= fun logging =>
                .ok ⟨anchor, workDays, workHours, holidays, logging⟩ := by
  unfold ofSettings requireVersion
  split
  · rfl
  · rfl

/-- Settings make a configuration when each of them means something. -/
theorem ofSettings_eq_ok_iff {env : Environment} {path : String} {anchor : Date}
    {settings : Settings} {c : Config} : ofSettings env path anchor settings = .ok c ↔
      settings.version = 1 ∧ c.anchor = anchor ∧
        readWorkDays settings.offDuty.workDays = .ok c.workDays ∧
        readWorkHours settings.offDuty.workHours = .ok c.workHours ∧
        Holidays.resolve settings.offDuty.holidays anchor = .ok c.holidays ∧
        readLogging env settings.logging = .ok c.logging := by
  obtain ⟨anchor', workDays, workHours, holidays, logging⟩ := c
  simp only [ofSettings_eq, bind_eq_ok_iff, mapError_eq_ok_iff, Except.ok.injEq, Config.mk.injEq]
  constructor
  · intro h
    obtain ⟨_, version, _, days, _, hours, _, dates, _, log, rfl, rfl, rfl, rfl, rfl⟩ := h
    exact ⟨requireVersion_eq_ok_iff.1 version, rfl, days, hours, dates, log⟩
  · intro h
    obtain ⟨version, rfl, days, hours, dates, log⟩ := h
    exact ⟨(), requireVersion_eq_ok_iff.2 version, _, days, _, hours, _, dates, _, log, rfl, rfl,
      rfl, rfl, rfl⟩

end Almanac.Config
