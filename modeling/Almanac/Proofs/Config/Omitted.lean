import Almanac.Proofs.Config.Document
import Almanac.Proofs.Config.FirstError
import Almanac.Proofs.Config.Meaning
import Almanac.Proofs.Config.Written

/-! What a document leaves out.

The off-duty settings and the level of the log have documented defaults. A default stands in two
places: for a setting that its table lacks, and for all settings of a table that is missing. Both
are what the documented entries are read as, and those are never wrong. So documented entries may be
written out or left out, any of them and together with their table or without it, and the document
makes the same settings or has the same error (`WrittenOut.ofTable_eq`), and loads as the same
configuration (`load_written_out`). -/
namespace Almanac.Config
open Toml (Value Table)

/-! ### Documented entries -/

/-- What the off-duty settings are documented to be when they are left out. -/
def OffDuty.documented : Table :=
  [("work_days", .array [.string "mon", .string "tue", .string "wed", .string "thu", .string "fri"]),
    ("work_hours", .array [.string "08-12", .string "13-17"]),
    ("holidays", .array [])]

/-- What the log settings are documented to be when they are left out. -/
def Logging.documented : Table :=
  [("level", .string "info")]

/-- A table to which some of the documented entries that it lacks are added, in any place. -/
def Supplied (documented table filled : Table) : Prop :=
  ∀ key, filled.lookup key = table.lookup key ∨
    filled.lookup key = (table.lookup key).or (documented.lookup key)

/-- What a document gives for a part of the settings, with some of the documented entries added that
it lacks; when it lacks the part, a table may be made for them. -/
inductive PartSupplied (documented : Table) : Option Value → Option Value → Prop
  | unchanged {value?} : PartSupplied documented value? value?
  | extended {table filled} : Supplied documented table filled →
      PartSupplied documented (some (.table table)) (some (.table filled))
  | created {filled} : Supplied documented [] filled →
      PartSupplied documented none (some (.table filled))

/-- A document with some settings written out that another leaves out. -/
structure WrittenOut (document filled : Table) : Prop where
  offDuty : PartSupplied OffDuty.documented (document.lookup "off_duty") (filled.lookup "off_duty")
  logging : PartSupplied Logging.documented (document.lookup "logging") (filled.lookup "logging")
  others : ∀ key, key ≠ "off_duty" → key ≠ "logging" → filled.lookup key = document.lookup key

/-! ### A part of the settings -/

/-- Documented entries may be added behind those that are there. -/
theorem supplied_append {documented : Table} (table : Table) {added : Table}
    (known : ∀ entry ∈ added, documented.lookup entry.1 = some entry.2) :
    Supplied documented table (table ++ added) := by
  intro key
  rw [List.lookup_append]
  cases given : added.lookup key with
  | none =>
    left
    exact Option.or_none
  | some value =>
    right
    rw [known _ (Toml.mem_of_lookup given)]

namespace Supplied
variable {documented table filled : Table} (h : Supplied documented table filled)
include h

/-- What a key gives is as it was, unless it is what the key is documented to give. -/
theorem lookup_cases (key : String) : filled.lookup key = table.lookup key ∨
    table.lookup key = none ∧ filled.lookup key = documented.lookup key := by
  cases given : table.lookup key with
  | none =>
    have step := h key
    rw [given, Option.none_or] at step
    exact step.imp id fun added => ⟨rfl, added⟩
  | some value =>
    have step := h key
    rw [given, Option.some_or] at step
    exact .inl (step.elim id id)

/-- An entry that reads as the default may be written out. -/
theorem readOr_eq {α : Type} {default : α} {read : Value → Except ShapeError α} {key : String}
    (reads : readOr default read documented key = .ok default) :
    readOr default read filled key = readOr default read table key := by
  unfold readOr at reads ⊢
  rcases h.lookup_cases key with same | ⟨absent, added⟩
  · rw [same]
  · rw [added, absent]
    exact reads

/-- Documented entries are no errors, so none comes and none goes. -/
theorem firstError_eq {check : String → Value → Except ShapeError Unit}
    (passes : firstError check documented = .ok ()) (nodup : (table.map Prod.fst).Nodup)
    (nodup' : (filled.map Prod.fst).Nodup) : firstError check filled = firstError check table := by
  refine firstError_congr nodup' nodup fun key e => ?_
  unfold Wrong
  rcases h.lookup_cases key with same | ⟨absent, added⟩
  · rw [same]
  · rw [added, absent]
    constructor
    · rintro ⟨value, given, wrong⟩
      have passed := firstError_eq_ok_iff.1 passes _ (Toml.mem_of_lookup given)
      cases passed.symm.trans wrong
    · rintro ⟨value, none, -⟩
      cases none

end Supplied

theorem readPart_supplied {α : Type} {names : List String}
    {check : String → Value → Except ShapeError Unit} {ofTable : Table → Except ShapeError α}
    {expected : Expected} {documented table filled : Table} (h : Supplied documented table filled)
    (passes : firstError check documented = .ok ()) (nodup : (table.map Prod.fst).Nodup)
    (nodup' : (filled.map Prod.fst).Nodup) (made : ofTable filled = ofTable table) :
    readPart names check ofTable expected (.table filled) =
      readPart names check ofTable expected (.table table) := by
  show (firstError check filled >>= fun _ => ofTable filled) =
    firstError check table >>= fun _ => ofTable table
  rw [h.firstError_eq passes nodup nodup', made]

/-- The two places of a default agree with what is documented: what is read of a table without
entries, and what is read when a documented entry is lacking. -/
structure Defaults {α : Type} (documented : Table) (default : α)
    (read : Value → Except ShapeError α) : Prop where
  empty : read (.table []) = .ok default
  supplied : ∀ {table filled}, Supplied documented table filled → (table.map Prod.fst).Nodup →
    (filled.map Prod.fst).Nodup → read (.table filled) = read (.table table)

theorem OffDuty.defaults : Defaults documented OffDuty.default OffDuty.read := by
  refine ⟨rfl, fun {table filled} h nodup nodup' => ?_⟩
  have workDays : readOr default.workDays readStrings filled "work_days" =
      readOr default.workDays readStrings table "work_days" := h.readOr_eq rfl
  have workHours : readOr default.workHours readStrings filled "work_hours" =
      readOr default.workHours readStrings table "work_hours" := h.readOr_eq rfl
  have holidays : readOr default.holidays readStrings filled "holidays" =
      readOr default.holidays readStrings table "holidays" := h.readOr_eq rfl
  have made : OffDuty.ofTable filled = OffDuty.ofTable table := by
    rw [OffDuty.ofTable, workDays, workHours, holidays]
    rfl
  rw [OffDuty.read_eq]
  exact readPart_supplied h rfl nodup nodup' made

/-- Two of the log settings have no documented entry and stay as they are. -/
theorem Logging.defaults : Defaults documented Logging.default Logging.read := by
  refine ⟨rfl, fun {table filled} h nodup nodup' => ?_⟩
  have level : readOr default.level (readString .string) filled "level" =
      readOr default.level (readString .string) table "level" := h.readOr_eq rfl
  have fileLevel : readOr none (fun v => (readString .string v).map some) filled "file_level" =
      readOr none (fun v => (readString .string v).map some) table "file_level" := h.readOr_eq rfl
  have file : readOr none (fun v => (readString .path v).map some) filled "file" =
      readOr none (fun v => (readString .path v).map some) table "file" := h.readOr_eq rfl
  have made : Logging.ofTable filled = Logging.ofTable table := by
    rw [Logging.ofTable, level, fileLevel, file]
    rfl
  rw [Logging.read_eq]
  exact readPart_supplied h rfl nodup nodup' made

/-! ### A document -/

/-- A part is read the same from either document, or has the same error. -/
theorem PartSupplied.readOr_eq {α : Type} {documented document filled : Table} {part : String}
    {default : α} {read : Value → Except ShapeError α}
    (h : PartSupplied documented (document.lookup part) (filled.lookup part))
    (defaults : Defaults documented default read) (sound : (Value.table document).Unambiguous)
    (sound' : (Value.table filled).Unambiguous) :
    readOr default read filled part = readOr default read document part := by
  unfold readOr
  generalize given : document.lookup part = value? at h
  generalize given' : filled.lookup part = value'? at h
  cases h with
  | unchanged => rfl
  | extended supplied =>
    exact defaults.supplied supplied (sound.of_lookup given).nodup (sound'.of_lookup given').nodup
  | created supplied =>
    exact (defaults.supplied supplied List.nodup_nil (sound'.of_lookup given').nodup).trans
      defaults.empty

theorem WrittenOut.ofTable_eq {document filled : Table} (h : WrittenOut document filled)
    (sound : (Value.table document).Unambiguous) (sound' : (Value.table filled).Unambiguous) :
    Settings.ofTable filled = Settings.ofTable document :=
  Settings.ofTable_congr sound.nodup sound'.nodup
    (h.offDuty.readOr_eq OffDuty.defaults sound sound')
    (h.logging.readOr_eq Logging.defaults sound sound') h.others

/-! ### Loading -/

/-- **What is left out is as documented.** A document with documented entries written out that
another leaves out loads as the same configuration or fails with the same error. So it is all one
whether a table is missing, empty or has some of its settings. -/
theorem load_written_out {files files' : FileSystem} {env : Environment} {path? : Option String}
    {anchor : Date} {document filled : Table}
    (decodes : Decodes (files.read (pathOr env path?)) document)
    (decodes' : Decodes (files'.read (pathOr env path?)) filled) (h : WrittenOut document filled) :
    load files' env path? anchor = load files env path? anchor := by
  obtain ⟨text, -, parsed⟩ := id decodes
  obtain ⟨text', -, parsed'⟩ := id decodes'
  have shaped : Settings.ofTable filled = Settings.ofTable document :=
    h.ofTable_eq (Toml.unambiguous_of_parse? parsed) (Toml.unambiguous_of_parse? parsed')
  rw [load, load, decodes.ofContents_eq, decodes'.ofContents_eq, ofTable, ofTable, shaped]

/-- A table with some of its settings and another that is missing, and both written out. -/
theorem load_written_out_partly :
    let anchor : Date := ⟨2024, 6, 15, by decide⟩
    let text := "version = 1\n[off_duty]\nwork_days = [\n\"sat\",\n]\n"
    let text' := text ++ "work_hours = [\n\"08-12\",\n\"13-17\",\n]\nholidays = [\n]\n" ++
      "[logging]\nlevel = \"info\"\n"
    let files : FileSystem := ⟨fun _ => .bytes text.toUTF8, fun _ => .ok ()⟩
    let files' : FileSystem := ⟨fun _ => .bytes text'.toUTF8, fun _ => .ok ()⟩
    let c : Config := ⟨anchor, [.saturday], [⟨8, 12⟩, ⟨13, 17⟩], ⟨[]⟩, .default⟩
    load files ⟨[], none⟩ (some "/hld.toml") anchor = .ok c ∧
      load files' ⟨[], none⟩ (some "/hld.toml") anchor = .ok c := by
  intro anchor text text' files files' c
  let settings : Settings := ⟨1, ⟨["sat"], ["08-12", "13-17"], []⟩, .default⟩
  let table : Table := [("work_days", .array [.string "sat"])]
  let document : Table := [("version", .integer 1), ("off_duty", .table table)]
  let filled : Table := [("version", .integer 1), ("off_duty", .table settings.offDuty.table),
    ("logging", .table settings.logging.table)]
  have decodes : Decodes (.bytes text.toUTF8) document := by
    let chars := "version = 1\n".toList ++ ("[off_duty]\n".toList ++
      (Toml.line "work_days".toList (Toml.writtenArray ["sat"]) ++ []))
    have same : text = String.ofList chars := by decide +kernel
    have reads : Toml.Reads chars [.assign ["version"] (.integer 1), .openTable ["off_duty"],
        .assign ["work_days"] (.array [.string "sat"])] := by
      refine Toml.Reads.cons ?_ rfl rfl rfl
      refine Toml.Reads.cons ?_ rfl rfl rfl
      exact Toml.reads_nil.array (by decide) (by decide) ["sat"]
    refine ⟨text, rfl, ?_⟩
    rw [same, Toml.parse?_of_reads reads (by decide +kernel) (by decide +kernel)]
    rfl
  have decodes' : Decodes (.bytes text'.toUTF8) filled := by
    have same : text' = String.ofList (written settings) := by decide +kernel
    refine ⟨text', rfl, ?_⟩
    rw [same, parse?_written]
  have offDuty : ∀ entry ∈ settings.offDuty.table.tail,
      OffDuty.documented.lookup entry.1 = some entry.2 :=
    List.forall_mem_cons.2 ⟨rfl, List.forall_mem_singleton.2 rfl⟩
  have logging : ∀ entry ∈ settings.logging.table,
      Logging.documented.lookup entry.1 = some entry.2 := List.forall_mem_singleton.2 rfl
  have writtenOut : WrittenOut document filled := by
    refine ⟨.extended (supplied_append table offDuty), .created (supplied_append [] logging), ?_⟩
    intro key isOffDuty isLogging
    simp only [document, filled, List.lookup_cons, beq_eq_false_iff_ne.2 isOffDuty,
      beq_eq_false_iff_ne.2 isLogging]
  have loaded : load files ⟨[], none⟩ (some "/hld.toml") anchor = .ok c := by
    refine load_eq_ok_iff.2 ⟨settings, (says_iff "").2 (by decide +kernel), ?_⟩
    refine ofSettings_eq_ok_iff.2 ⟨rfl, rfl, by decide +kernel, ?_, by decide +kernel,
      by decide +kernel⟩
    rw [readWorkHours_eq]
    refine readListed_eq_ok_iff.2 ⟨by decide, [⟨8, 12⟩, ⟨13, 17⟩], by decide +kernel, ?_⟩
    simp +decide [c, ascending, List.mergeSort, dropRepeats]
  exact ⟨loaded, (load_written_out decodes decodes' writtenOut).trans loaded⟩

end Almanac.Config
