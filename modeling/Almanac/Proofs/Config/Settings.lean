import Almanac.Config.Settings
import Almanac.Success

/-! What settings take from a document.

A text is taken as it stands in the document, and a list of texts item by item
(`readStrings_eq_ok_iff`); what the document leaves out has its default. So the templates of the
holidays and the path of the log file are those that the document gives, word for word
(`Settings.holidays_given`, `Settings.file_given`). -/
namespace Almanac.Config
open Toml (Value Table)

/-! ### Values -/

theorem mismatch_ne_ok {α : Type} {value : Value} {expected : Expected} {a : α} :
    mismatch value expected ≠ .ok a := by
  intro h
  obtain ⟨found, -, h⟩ := bind_eq_ok_iff.1 h
  cases h

theorem readString_eq_ok_iff {expected : Expected} {value : Value} {text : String} :
    readString expected value = .ok text ↔ value = .string text := by
  cases value with
  | string written => simp [readString]
  | _ => simp [readString, mismatch_ne_ok]

theorem readStrings_eq_ok_iff {value : Value} {texts : List String} :
    readStrings value = .ok texts ↔ value = .array (texts.map .string) := by
  cases value with
  | array items =>
    rw [readStrings, mapM_eq_ok_iff, Value.array.injEq]
    induction items generalizing texts with
    | nil => simp [eq_comm (a := [])]
    | cons item items ih =>
      cases texts with
      | nil => simp
      | cons text texts =>
        rw [List.map_cons, List.map_cons, List.map_cons, List.cons.injEq, List.cons.injEq, ih,
          readString_eq_ok_iff]
  | _ => simp [readStrings, mismatch_ne_ok]

/-! ### Tables -/

theorem leastKey_eq_none_iff {α : Type} {entries : List (String × α)} :
    leastKey entries = none ↔ entries = [] := by
  cases entries with
  | nil => simp [leastKey]
  | cons entry entries =>
    rw [leastKey]
    split
    · simp
    · split <;> simp

theorem firstError_eq_ok_iff {check : String → Value → Except ShapeError Unit} {table : Table} :
    firstError check table = .ok () ↔ ∀ entry ∈ table, check entry.1 entry.2 = .ok () := by
  unfold firstError
  dsimp only
  split
  · next found =>
    have some_error := mt leastKey_eq_none_iff.2 (Option.ne_none_iff_exists'.2 ⟨_, found⟩)
    refine ⟨nofun, fun passes => absurd (List.filterMap_eq_nil_iff.2 ?_) some_error⟩
    intro entry member
    rw [passes entry member]
  · next no_error =>
    rw [leastKey_eq_none_iff, List.filterMap_eq_nil_iff] at no_error
    refine ⟨fun _ entry member => ?_, fun _ => rfl⟩
    have passes := no_error entry member
    split at passes
    · next ok => exact ok
    · cases passes

theorem readOr_eq_ok_iff {α : Type} {default : α} {read : Value → Except ShapeError α}
    {table : Table} {key : String} {a : α} : readOr default read table key = .ok a ↔
      table.lookup key = none ∧ a = default ∨
        ∃ value, table.lookup key = some value ∧ read value = .ok a := by
  unfold readOr
  split
  · next value found => simp [found]
  · next none => simp [none, eq_comm (a := a)]

/-- Whether the entries of a table are in order; those that come from the items of an array are not
looked at. -/
def checkPart (check : String → Value → Except ShapeError Unit) (table : Table) :
    Value → Except ShapeError Unit
  | .array _ => .ok ()
  | _ => firstError check table

/-- A part of the settings that has entries of its own. -/
def readPart {α : Type} (names : List String) (check : String → Value → Except ShapeError Unit)
    (ofTable : Table → Except ShapeError α) (expected : Expected) (value : Value) :
    Except ShapeError α :=
  match asTable? names value with
  | some table => checkPart check table value >>= fun _ => ofTable table
  | none => mismatch value expected

theorem readPart_eq_ok_iff {α : Type} {names : List String}
    {check : String → Value → Except ShapeError Unit} {ofTable : Table → Except ShapeError α}
    {expected : Expected} {value : Value} {a : α} :
    readPart names check ofTable expected value = .ok a ↔ ∃ table,
      asTable? names value = some table ∧ checkPart check table value = .ok () ∧
        ofTable table = .ok a := by
  unfold readPart
  cases asTable? names value with
  | none => simp [mismatch_ne_ok]
  | some table =>
    rw [bind_eq_ok_iff]
    constructor
    · intro h
      obtain ⟨_, checked, h⟩ := h
      exact ⟨table, rfl, checked, h⟩
    · intro h
      obtain ⟨_, same, checked, h⟩ := h
      cases same
      exact ⟨(), checked, h⟩

theorem OffDuty.read_eq : OffDuty.read = readPart names check OffDuty.ofTable .offDuty := by
  funext value
  unfold OffDuty.read readPart
  cases value <;> rfl

theorem Logging.read_eq : Logging.read = readPart names check Logging.ofTable .logging := by
  funext value
  unfold Logging.read readPart
  cases value <;> rfl

theorem OffDuty.ofTable_eq_ok_iff {table : Table} {offDuty : OffDuty} :
    OffDuty.ofTable table = .ok offDuty ↔
      readOr default.workDays readStrings table "work_days" = .ok offDuty.workDays ∧
      readOr default.workHours readStrings table "work_hours" = .ok offDuty.workHours ∧
      readOr default.holidays readStrings table "holidays" = .ok offDuty.holidays := by
  obtain ⟨workDays, workHours, holidays⟩ := offDuty
  simp only [OffDuty.ofTable, bind_eq_ok_iff, Except.ok.injEq, OffDuty.mk.injEq]
  constructor
  · intro h
    obtain ⟨_, days, _, hours, _, templates, rfl, rfl, rfl⟩ := h
    exact ⟨days, hours, templates⟩
  · intro h
    obtain ⟨days, hours, templates⟩ := h
    exact ⟨_, days, _, hours, _, templates, rfl, rfl, rfl⟩

theorem Logging.ofTable_eq_ok_iff {table : Table} {logging : Logging} :
    Logging.ofTable table = .ok logging ↔
      readOr default.level (readString .string) table "level" = .ok logging.level ∧
      readOr none (fun v => (readString .string v).map some) table "file_level" =
        .ok logging.fileLevel? ∧
      readOr none (fun v => (readString .path v).map some) table "file" = .ok logging.file? := by
  obtain ⟨level, fileLevel?, file?⟩ := logging
  simp only [Logging.ofTable, bind_eq_ok_iff, Except.ok.injEq, Logging.mk.injEq]
  constructor
  · intro h
    obtain ⟨_, level, _, fileLevel, _, file, rfl, rfl, rfl⟩ := h
    exact ⟨level, fileLevel, file⟩
  · intro h
    obtain ⟨level, fileLevel, file⟩ := h
    exact ⟨_, level, _, fileLevel, _, file, rfl, rfl, rfl⟩

theorem Settings.ofTable_eq_ok_iff {table : Table} {settings : Settings} :
    Settings.ofTable table = .ok settings ↔ firstError check table = .ok () ∧
      readOr OffDuty.default OffDuty.read table "off_duty" = .ok settings.offDuty ∧
      readOr Logging.default Logging.read table "logging" = .ok settings.logging ∧
      ∃ value, table.lookup "version" = some value ∧ readVersion value = .ok settings.version := by
  obtain ⟨version, offDuty, logging⟩ := settings
  unfold Settings.ofTable
  cases table.lookup "version" with
  | none => simp [bind_eq_ok_iff]
  | some value =>
    simp only [bind_eq_ok_iff, Except.ok.injEq, Settings.mk.injEq]
    constructor
    · intro h
      obtain ⟨_, checked, _, offDuty, _, logging, _, version, rfl, rfl, rfl⟩ := h
      exact ⟨checked, offDuty, logging, value, rfl, version⟩
    · intro h
      obtain ⟨checked, offDuty, logging, _, same, version⟩ := h
      cases same
      exact ⟨(), checked, _, offDuty, _, logging, _, version, rfl, rfl, rfl⟩

/-! ### What a document gives -/

/-- What a document gives under a name within one of its parts. -/
def given? (names : List String) (part name : String) (document : Table) : Option Value :=
  (document.lookup part).bind fun value => (asTable? names value).bind (·.lookup name)

/-- A part is left out, or what it gives is read from its table. -/
theorem readOr_readPart {α : Type} {default : α} {names : List String}
    {check : String → Value → Except ShapeError Unit} {ofTable : Table → Except ShapeError α}
    {expected : Expected} {document : Table} {part : String} {a : α}
    (h : readOr default (readPart names check ofTable expected) document part = .ok a)
    (name : String) : given? names part name document = none ∧ a = default ∨
      ∃ table, given? names part name document = table.lookup name ∧ ofTable table = .ok a := by
  unfold given?
  rcases readOr_eq_ok_iff.1 h with ⟨left_out, rfl⟩ | ⟨value, found, h⟩
  · rw [left_out]
    exact .inl ⟨rfl, rfl⟩
  · obtain ⟨table, seen, -, h⟩ := readPart_eq_ok_iff.1 h
    rw [found, Option.bind_some, seen]
    exact .inr ⟨table, rfl, h⟩

theorem Settings.holidays_given {document : Table} {settings : Settings}
    (h : Settings.ofTable document = .ok settings) :
    (given? OffDuty.names "off_duty" "holidays" document).getD (.array []) =
      .array (settings.offDuty.holidays.map .string) := by
  obtain ⟨-, part, -, -⟩ := Settings.ofTable_eq_ok_iff.1 h
  rw [OffDuty.read_eq] at part
  rcases readOr_readPart part "holidays" with ⟨left_out, default⟩ | ⟨table, given, h⟩
  · rw [left_out, default]
    rfl
  · obtain ⟨-, -, holidays⟩ := OffDuty.ofTable_eq_ok_iff.1 h
    rw [given]
    rcases readOr_eq_ok_iff.1 holidays with ⟨left_out, default⟩ | ⟨value, found, read⟩
    · rw [left_out, default]
      rfl
    · rw [found, readStrings_eq_ok_iff.1 read]
      rfl

theorem Settings.file_given {document : Table} {settings : Settings}
    (h : Settings.ofTable document = .ok settings) :
    given? Logging.names "logging" "file" document = settings.logging.file?.map .string := by
  obtain ⟨-, -, part, -⟩ := Settings.ofTable_eq_ok_iff.1 h
  rw [Logging.read_eq] at part
  rcases readOr_readPart part "file" with ⟨left_out, default⟩ | ⟨table, given, h⟩
  · rw [left_out, default]
    rfl
  · obtain ⟨-, -, file⟩ := Logging.ofTable_eq_ok_iff.1 h
    rw [given]
    rcases readOr_eq_ok_iff.1 file with ⟨left_out, default⟩ | ⟨value, found, read⟩
    · rw [left_out, default]
      rfl
    · obtain ⟨path, read, same⟩ := map_eq_ok_iff.1 read
      rw [found, readString_eq_ok_iff.1 read, ← same]
      rfl

end Almanac.Config
