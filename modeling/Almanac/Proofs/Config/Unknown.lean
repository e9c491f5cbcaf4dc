import Almanac.Proofs.Config.Document
import Almanac.Proofs.Config.FirstError
import Almanac.Proofs.Config.Templates

/-! Keys that name no setting.

The document and its off-duty settings have the keys that they are known to have and no other: a
foreign key makes the whole document wrong, whatever else is wrong with it (`HasForeignKey`). The log
settings may have others. What stands under such a key is not used, and a document says the same
with it and without it (`LoggingExtended.ofTable_eq`). It has to be a value all the same: a number
that has none is an error even where nobody uses it (`load_foreign_keys`). -/
namespace Almanac.Config
open Toml (Value Table)

/-! ### Wrong entries -/

/-- A table is wrong when one of its entries is, whatever the others are. -/
theorem exists_firstError {check : String → Value → Except ShapeError Unit} {table : Table}
    {key : String} {value : Value} (member : (key, value) ∈ table)
    (wrong : ∃ e, check key value = .error e) : ∃ e, firstError check table = .error e := by
  rw [exists_error_iff] at wrong ⊢
  rintro ⟨⟨⟩, passes⟩
  exact wrong ⟨(), firstError_eq_ok_iff.1 passes _ member⟩

theorem exists_readPart_error {α : Type} {names : List String}
    {check : String → Value → Except ShapeError Unit} {ofTable : Table → Except ShapeError α}
    {expected : Expected} {table : Table} {key : String} {value : Value}
    (member : (key, value) ∈ table) (wrong : ∃ e, check key value = .error e) :
    ∃ e, readPart names check ofTable expected (.table table) = .error e := by
  obtain ⟨e, found⟩ := exists_firstError member wrong
  exact ⟨e, bind_eq_error_iff.2 (.inl found)⟩

namespace Settings

theorem exists_ofTable_error {document : Table} {key : String} {value : Value}
    (member : (key, value) ∈ document) (wrong : ∃ e, check key value = .error e) :
    ∃ e, ofTable document = .error e := by
  obtain ⟨e, found⟩ := exists_firstError member wrong
  exact ⟨e, bind_eq_error_iff.2 (.inl found)⟩

/-- The off-duty settings are wrong when reading them is. -/
theorem exists_check_offDuty {value : Value} (wrong : ∃ e, OffDuty.read value = .error e) :
    ∃ e, check "off_duty" value = .error e := by
  obtain ⟨e, found⟩ := wrong
  exact ⟨e, map_eq_error_iff.2 found⟩

theorem exists_check_logging {value : Value} (wrong : ∃ e, Logging.read value = .error e) :
    ∃ e, check "logging" value = .error e := by
  obtain ⟨e, found⟩ := wrong
  exact ⟨e, map_eq_error_iff.2 found⟩

end Settings

/-! ### Keys that may not be there -/

/-- A document with a key that no setting has, at its root or among its off-duty settings. -/
inductive HasForeignKey (document : Table) : Prop
  | root {key value} : (key, value) ∈ document → key ∉ Settings.names → HasForeignKey document
  | offDuty {table key value} : ("off_duty", .table table) ∈ document → (key, value) ∈ table →
      key ∉ OffDuty.names → HasForeignKey document

theorem Settings.check_of_foreign {key : String} (foreign : key ∉ names) (value : Value) :
    check key value = .error (.unknownField key names) := by
  simp only [names, List.mem_cons, List.not_mem_nil, or_false, not_or] at foreign
  simp [check, foreign, names]

theorem OffDuty.check_of_foreign {key : String} (foreign : key ∉ names) (value : Value) :
    check key value = .error (.unknownField key names) := by
  simp [check, foreign]

theorem HasForeignKey.exists_error {document : Table} (h : HasForeignKey document) :
    ∃ e, Settings.ofTable document = .error e := by
  cases h with
  | root member foreign =>
    exact Settings.exists_ofTable_error member ⟨_, Settings.check_of_foreign foreign _⟩
  | offDuty part member foreign =>
    refine Settings.exists_ofTable_error part (Settings.exists_check_offDuty ?_)
    rw [OffDuty.read_eq]
    exact exists_readPart_error member ⟨_, OffDuty.check_of_foreign foreign _⟩

/-! ### Keys that are not used -/

/-- A document with a table of log settings, and the same document with one more entry in it. -/
structure LoggingExtended (document extended : Table) (key : String) (value : Value) : Prop where
  logging : ∃ table table', document.lookup "logging" = some (.table table) ∧
    extended.lookup "logging" = some (.table table') ∧ table.lookup key = none ∧
    ∀ other, table'.lookup other = if other = key then some value else table.lookup other
  others : ∀ part, part ≠ "logging" → extended.lookup part = document.lookup part

theorem Logging.check_of_foreign {key : String} (foreign : key ∉ names) (value : Value) :
    check key value = checkUnused value := by
  simp only [names, List.mem_cons, List.not_mem_nil, or_false, not_or] at foreign
  simp [check, foreign]

theorem checkUnused_eq_ok_iff {value : Value} : checkUnused value = .ok () ↔ value.overflow? = none := by
  unfold checkUnused
  cases value.overflow? <;> simp

/-- An entry that is in order and not used changes nothing. -/
theorem Logging.read_extended {table table' : Table} {key : String} {value : Value}
    (nodup : (table.map Prod.fst).Nodup) (nodup' : (table'.map Prod.fst).Nodup)
    (foreign : key ∉ names) (absent : table.lookup key = none)
    (extended : ∀ other, table'.lookup other = if other = key then some value else table.lookup other)
    (sound : value.overflow? = none) : read (.table table') = read (.table table) := by
  have passes : check key value = .ok () := by
    rw [check_of_foreign foreign, checkUnused_eq_ok_iff, sound]
  have checked : firstError check table' = firstError check table := by
    refine firstError_congr nodup' nodup fun other e => ?_
    unfold Wrong
    rw [extended]
    by_cases here : other = key
    · simp [here, absent, passes]
    · simp [here]
  have kept {name : String} (known : name ∈ names) : table'.lookup name = table.lookup name := by
    rw [extended, if_neg]
    rintro rfl
    exact foreign known
  have made : ofTable table' = ofTable table := by
    unfold ofTable readOr
    rw [kept (by decide), kept (by decide), kept (by decide)]
  show (firstError check table' >>= fun _ => ofTable table') =
    firstError check table >>= fun _ => ofTable table
  rw [checked, made]

namespace LoggingExtended
variable {document extended : Table} {key : String} {value : Value}
  (h : LoggingExtended document extended key value) (foreign : key ∉ Logging.names)
include h foreign

/-- A document says the same with an entry that is not used. -/
theorem ofTable_eq (unambiguous : (Value.table document).Unambiguous)
    (unambiguous' : (Value.table extended).Unambiguous) (sound : value.overflow? = none) :
    Settings.ofTable extended = Settings.ofTable document := by
  obtain ⟨table, table', given, given', absent, entries⟩ := h.logging
  have logging : readOr Logging.default Logging.read extended "logging" =
      readOr Logging.default Logging.read document "logging" := by
    unfold readOr
    rw [given, given']
    exact Logging.read_extended (unambiguous.of_lookup given).nodup
      (unambiguous'.of_lookup given').nodup foreign absent entries sound
  refine Settings.ofTable_congr unambiguous.nodup unambiguous'.nodup ?_ logging
    fun part _ other => h.others part other
  unfold readOr
  rw [h.others "off_duty" (by decide)]

/-- A number without a value is wrong even where it is not used. -/
theorem exists_error (overflowed : value.overflow? ≠ none) :
    ∃ e, Settings.ofTable extended = .error e := by
  obtain ⟨table, table', -, given', -, entries⟩ := h.logging
  have here : table'.lookup key = some value := by
    rw [entries, if_pos rfl]
  have wrong : ∃ e, Logging.check key value = .error e := by
    rw [exists_error_iff, Logging.check_of_foreign foreign]
    rintro ⟨⟨⟩, passes⟩
    exact overflowed (checkUnused_eq_ok_iff.1 passes)
  refine Settings.exists_ofTable_error (Toml.mem_of_lookup given') (Settings.exists_check_logging ?_)
  rw [Logging.read_eq]
  exact exists_readPart_error (Toml.mem_of_lookup here) wrong

end LoggingExtended

/-! ### Loading -/

theorem exists_load_wrongShape {files : FileSystem} {env : Environment} {path? : Option String}
    {document : Table} (decodes : Decodes (files.read (pathOr env path?)) document)
    (wrong : ∃ e, Settings.ofTable document = .error e) (anchor : Date) :
    ∃ e, load files env path? anchor = .error (.wrongShape (pathOr env path?) e) := by
  obtain ⟨e, found⟩ := wrong
  refine ⟨e, ?_⟩
  rw [load, decodes.ofContents_eq, ofTable, found]
  rfl

/-! ### Log settings in a file -/

/-- What a file holds that has a version and this line among its log settings. -/
def loggingText (line : List Char) : List Char :=
  "version = 1\n".toList ++ ("[logging]\n".toList ++ line)

/-- The document with these log settings and no others. -/
def loggingOnly (table : Table) : Table :=
  [("version", .integer 1), ("logging", .table table)]

theorem decodes_logging {line : List Char} {statements : List Toml.Statement} {table : Table}
    (reads : Toml.Reads line statements) (enough : statements.length ≤ line.length)
    (means : Toml.tableOf? (.assign ["version"] (.integer 1) :: .openTable ["logging"] ::
      statements) = some (loggingOnly table)) :
    Decodes (.bytes (String.ofList (loggingText line)).toUTF8) (loggingOnly table) := by
  have reads : Toml.Reads (loggingText line)
      (.assign ["version"] (.integer 1) :: .openTable ["logging"] :: statements) := by
    refine Toml.Reads.cons ?_ rfl rfl rfl
    exact Toml.Reads.cons reads rfl rfl rfl
  have unmarked : (loggingText line).head? ≠ some '\ufeff' := fun mark =>
    absurd (Option.some.inj mark) (by decide)
  have enough : statements.length + 2 ≤ (loggingText line).length := by
    unfold loggingText
    rw [← List.append_assoc, List.length_append, Nat.add_comm]
    exact Nat.add_le_add (by decide) enough
  refine ⟨_, rfl, ?_⟩
  rw [Toml.parse?_of_reads reads unmarked enough, means]

theorem loggingExtended_nil (key : String) (value : Value) :
    LoggingExtended (loggingOnly []) (loggingOnly [(key, value)]) key value := by
  refine ⟨⟨[], [(key, value)], rfl, rfl, rfl, fun other => ?_⟩, fun part other => ?_⟩
  · by_cases here : other = key
    · simp [here]
    · simp [here, List.lookup_cons, beq_eq_false_iff_ne.2 here]
  · simp [loggingOnly, List.lookup_cons, beq_eq_false_iff_ne.2 other]

/-- A floating point number that is too large to be one. -/
theorem reads_tooLarge : Toml.Reads "zz = 1e401\n".toList
    [.assign ["zz"] (.overflowed .float)] :=
  Toml.Reads.cons Toml.reads_nil rfl rfl rfl

/-! ### The result -/

/-- **Foreign keys.** A document with a key that no setting has, at its root or among its off-duty
settings, has the wrong shape, whatever else it holds. Another key among the log settings may hold
any value, and the document loads as it does without it; but a document in which such a key holds a
number without a value has the wrong shape too. -/
theorem load_foreign_keys (files : FileSystem) (env : Environment) (path? : Option String)
    (anchor : Date) {document : Table} (decodes : Decodes (files.read (pathOr env path?)) document) :
    (HasForeignKey document →
      ∃ e, load files env path? anchor = .error (.wrongShape (pathOr env path?) e)) ∧
    ∀ (files' : FileSystem) (extended : Table) (key : String) (value : Value),
      Decodes (files'.read (pathOr env path?)) extended → key ∉ Logging.names →
      LoggingExtended document extended key value →
        (value.overflow? = none →
          load files' env path? anchor = load files env path? anchor) ∧
        (value.overflow? ≠ none →
          ∃ e, load files' env path? anchor = .error (.wrongShape (pathOr env path?) e)) := by
  refine ⟨fun foreign => exists_load_wrongShape decodes foreign.exists_error anchor,
    fun files' extended key value decodes' foreign h => ⟨fun sound => ?_, fun overflowed => ?_⟩⟩
  · obtain ⟨text, -, parsed⟩ := id decodes
    obtain ⟨text', -, parsed'⟩ := id decodes'
    have shaped := h.ofTable_eq foreign (Toml.unambiguous_of_parse? parsed)
      (Toml.unambiguous_of_parse? parsed') sound
    rw [load, load, decodes.ofContents_eq, decodes'.ofContents_eq, ofTable, ofTable, shaped]
  · exact exists_load_wrongShape decodes' (h.exists_error foreign overflowed) anchor

/-- A misspelled key beside a version that is not known, and keys of the log settings that nobody
uses. -/
theorem load_foreign_keys_misspelled :
    let anchor : Date := ⟨2024, 6, 15, by decide⟩
    let files (text : List Char) : FileSystem :=
      ⟨fun _ => .bytes (String.ofList text).toUTF8, fun _ => .ok ()⟩
    let misspelled := "version = 2\n[off_duty]\nwork_day = [\n\"sat\",\n]\n".toList
    let colour := "colour = [\n\"red\",\n]\n".toList
    (∃ e, load (files misspelled) ⟨[], none⟩ (some "/hld.toml") anchor =
      .error (.wrongShape "/hld.toml" e)) ∧
    load (files (loggingText colour)) ⟨[], none⟩ (some "/hld.toml") anchor =
      load (files (loggingText [])) ⟨[], none⟩ (some "/hld.toml") anchor ∧
    ∃ e, load (files (loggingText "zz = 1e401\n".toList)) ⟨[], none⟩ (some "/hld.toml") anchor =
      .error (.wrongShape "/hld.toml" e) := by
  intro anchor files misspelled colour
  have decodes : Decodes (.bytes (String.ofList misspelled).toUTF8)
      [("version", .integer 2), ("off_duty", .table [("work_day", .array [.string "sat"])])] := by
    have same : misspelled = "version = 2\n".toList ++ ("[off_duty]\n".toList ++
        (Toml.line "work_day".toList (Toml.writtenArray ["sat"]) ++ [])) := by decide +kernel
    have reads : Toml.Reads misspelled [.assign ["version"] (.integer 2),
        .openTable ["off_duty"], .assign ["work_day"] (.array [.string "sat"])] := by
      rw [same]
      refine Toml.Reads.cons ?_ rfl rfl rfl
      refine Toml.Reads.cons ?_ rfl rfl rfl
      exact Toml.reads_nil.array (by decide) (by decide) ["sat"]
    refine ⟨_, rfl, ?_⟩
    rw [Toml.parse?_of_reads reads (by decide +kernel) (by decide +kernel)]
    rfl
  have decodes' : Decodes (.bytes (String.ofList (loggingText [])).toUTF8) (loggingOnly []) :=
    decodes_logging Toml.reads_nil (Nat.le_refl 0) rfl
  have same : colour = Toml.line "colour".toList (Toml.writtenArray ["red"]) ++ [] := by
    decide +kernel
  have reads : Toml.Reads colour [.assign ["colour"] (.array [.string "red"])] := by
    rw [same]
    exact Toml.reads_nil.array (by decide) (by decide) ["red"]
  have foreign := load_foreign_keys (files misspelled) ⟨[], none⟩ (some "/hld.toml") anchor decodes
  have others := load_foreign_keys (files (loggingText [])) ⟨[], none⟩ (some "/hld.toml") anchor decodes'
  refine ⟨foreign.1 (.offDuty (List.mem_cons_of_mem _ List.mem_cons_self) List.mem_cons_self
    (by decide)), ?_, ?_⟩
  · exact (others.2 (files (loggingText colour)) _ "colour" (.array [.string "red"])
      (decodes_logging reads (by decide) rfl) (by decide) (loggingExtended_nil _ _)).1 rfl
  · exact (others.2 (files (loggingText "zz = 1e401\n".toList)) _ "zz" (.overflowed .float)
      (decodes_logging reads_tooLarge (by decide) rfl) (by decide) (loggingExtended_nil _ _)).2
      (by decide)

/-- A key that nobody uses is the difference between a configuration and an error. -/
theorem load_overflowed_key :
    let anchor : Date := ⟨2024, 6, 15, by decide⟩
    let files (text : List Char) : FileSystem :=
      ⟨fun _ => .bytes (String.ofList text).toUTF8, fun _ => .ok ()⟩
    let text := loggingText []
    let text' := loggingText "zz = 1e401\n".toList
    Decodes ((files text).read "/hld.toml") (loggingOnly []) ∧
      Decodes ((files text').read "/hld.toml") (loggingOnly [("zz", .overflowed .float)]) ∧
      "zz" ∉ Logging.names ∧
      LoggingExtended (loggingOnly []) (loggingOnly [("zz", .overflowed .float)]) "zz"
        (.overflowed .float) ∧
      load (files text) ⟨[], none⟩ (some "/hld.toml") anchor = .ok (ofHolidays anchor ⟨[]⟩) ∧
      load (files text') ⟨[], none⟩ (some "/hld.toml") anchor =
        .error (.wrongShape "/hld.toml" (.overflowed .float)) := by
  intro anchor files text text'
  have decodes : Decodes ((files text).read "/hld.toml") (loggingOnly []) :=
    decodes_logging Toml.reads_nil (Nat.le_refl 0) rfl
  have decodes' : Decodes ((files text').read "/hld.toml")
      (loggingOnly [("zz", .overflowed .float)]) :=
    decodes_logging reads_tooLarge (by decide) rfl
  refine ⟨decodes, decodes', by decide, loggingExtended_nil _ _, ?_, ?_⟩
  · refine load_eq_ok_iff.2 ⟨⟨1, .default, .default⟩, ⟨_, decodes, rfl⟩, ?_⟩
    exact ofSettings_eq_ok_iff.2 ⟨rfl, rfl, readWorkDays_default, readWorkHours_default, rfl, rfl⟩
  · rw [load, decodes'.ofContents_eq]
    rfl

end Almanac.Config
