import Almanac.Proofs.Config.Document
import Almanac.Proofs.Config.Settings
import Almanac.Proofs.Toml.Writing

/-! A file for any settings.

Whatever the settings of the known version are, some file says them (`says_written`): lists are
written as arrays and texts between double quotes, and what is not given is left out. -/
namespace Almanac.Config
open Toml (Value Table Statement)

/-- The line of a text that may be missing. -/
def optionalLine (word : List Char) (text? : Option String) : List Char :=
  (text?.map fun text => Toml.line word (Toml.quoted text)).getD []

/-- What a file holds that makes these settings. -/
def written (settings : Settings) : List Char :=
  "version = 1\n".toList ++ ("[off_duty]\n".toList ++
    (Toml.line "work_days".toList (Toml.writtenArray settings.offDuty.workDays) ++
    (Toml.line "work_hours".toList (Toml.writtenArray settings.offDuty.workHours) ++
    (Toml.line "holidays".toList (Toml.writtenArray settings.offDuty.holidays) ++
    ("[logging]\n".toList ++
    (Toml.line "level".toList (Toml.quoted settings.logging.level) ++
    (optionalLine "file_level".toList settings.logging.fileLevel? ++
    optionalLine "file".toList settings.logging.file?)))))))

/-! ### The statements -/

/-- The statement of a text that may be missing. -/
def optionalStatement (key : String) (text? : Option String) : List Statement :=
  (text?.map fun text => Statement.assign [key] (.string text)).toList

def statements (settings : Settings) : List Statement :=
  .assign ["version"] (.integer 1) :: .openTable ["off_duty"] ::
    .assign ["work_days"] (.array (settings.offDuty.workDays.map .string)) ::
    .assign ["work_hours"] (.array (settings.offDuty.workHours.map .string)) ::
    .assign ["holidays"] (.array (settings.offDuty.holidays.map .string)) ::
    .openTable ["logging"] :: .assign ["level"] (.string settings.logging.level) ::
    (optionalStatement "file_level" settings.logging.fileLevel? ++
      optionalStatement "file" settings.logging.file?)

theorem reads_optional {word rest : List Char} {others : List Statement}
    (h : Toml.Reads rest others) (ne : word ≠ []) (chars : word.all Toml.isKeyChar = true)
    (text? : Option String) : Toml.Reads (optionalLine word text? ++ rest)
      (optionalStatement (String.ofList word) text? ++ others) := by
  cases text? with
  | none => exact h
  | some text => exact h.text ne chars text

theorem reads_written (settings : Settings) :
    Toml.Reads (written settings) (statements settings) := by
  have file : Toml.Reads (optionalLine "file".toList settings.logging.file? ++ [])
      (optionalStatement "file" settings.logging.file? ++ []) :=
    reads_optional Toml.reads_nil (by decide) (by decide) settings.logging.file?
  rw [List.append_nil, List.append_nil] at file
  refine Toml.Reads.cons ?_ rfl rfl rfl
  refine Toml.Reads.cons ?_ rfl rfl rfl
  refine Toml.Reads.array ?_ (by decide) (by decide) _
  refine Toml.Reads.array ?_ (by decide) (by decide) _
  refine Toml.Reads.array ?_ (by decide) (by decide) _
  refine Toml.Reads.cons ?_ rfl rfl rfl
  refine Toml.Reads.text ?_ (by decide) (by decide) _
  exact reads_optional file (by decide) (by decide) _

/-! ### The document -/

/-- The entry of a text that may be missing. -/
def optionalEntry (key : String) (text? : Option String) : Table :=
  (text?.map fun text => (key, Value.string text)).toList

/-- The off-duty settings as a table. -/
def OffDuty.table (offDuty : OffDuty) : Table :=
  [("work_days", .array (offDuty.workDays.map .string)),
    ("work_hours", .array (offDuty.workHours.map .string)),
    ("holidays", .array (offDuty.holidays.map .string))]

/-- The log settings as a table. -/
def Logging.table (logging : Logging) : Table :=
  ("level", .string logging.level) ::
    (optionalEntry "file_level" logging.fileLevel? ++ optionalEntry "file" logging.file?)

theorem parse?_written (settings : Settings) :
    Toml.parse? (String.ofList (written settings)) = some [("version", .integer 1),
      ("off_duty", .table settings.offDuty.table), ("logging", .table settings.logging.table)] := by
  have unmarked : (written settings).head? ≠ some '\ufeff' := fun mark =>
    absurd (Option.some.inj mark) (by decide)
  have optional (key : String) (text? : Option String) :
      (optionalStatement key text?).length ≤ 1 := by
    cases text? with
    | none => exact Nat.zero_le 1
    | some text => exact Nat.le_refl 1
  have enough : (statements settings).length ≤ (written settings).length := by
    have first := optional "file_level" settings.logging.fileLevel?
    have second := optional "file" settings.logging.file?
    have version : 12 ≤ (written settings).length := by
      unfold written
      rw [List.length_append]
      exact Nat.le_add_right_of_le (by decide)
    simp only [statements, List.length_cons, List.length_append]
    omega
  rw [Toml.parse?_of_reads (reads_written settings) unmarked enough]
  obtain ⟨version, offDuty, level, _ | fileLevel, _ | file⟩ := settings
  · rfl
  · rfl
  · rfl
  · rfl

theorem OffDuty.read_table (offDuty : OffDuty) : OffDuty.read (.table offDuty.table) = .ok offDuty := by
  have listed (texts : List String) : readStrings (.array (texts.map .string)) = .ok texts :=
    readStrings_eq_ok_iff.2 rfl
  rw [OffDuty.read_eq]
  refine readPart_eq_ok_iff.2 ⟨_, rfl, firstError_eq_ok_iff.2 ?_,
    OffDuty.ofTable_eq_ok_iff.2 ⟨listed _, listed _, listed _⟩⟩
  have passes {name : String} (known : OffDuty.names.contains name = true) (texts : List String) :
      OffDuty.check name (.array (texts.map .string)) = .ok () := by
    rw [OffDuty.check, if_pos known, listed]
    rfl
  simp only [OffDuty.table, List.forall_mem_cons, List.not_mem_nil, false_imp_iff, implies_true,
    and_true]
  exact ⟨passes rfl _, passes rfl _, passes rfl _⟩

/-- Every entry of the log settings is in order when it is a text. -/
theorem Logging.check_string (key text : String) : Logging.check key (.string text) = .ok () := by
  unfold Logging.check
  split
  · rfl
  · split
    · rfl
    · rfl

theorem Logging.read_table (logging : Logging) :
    Logging.read (.table logging.table) = .ok logging := by
  obtain ⟨level, fileLevel?, file?⟩ := logging
  rw [Logging.read_eq]
  refine readPart_eq_ok_iff.2 ⟨_, rfl, firstError_eq_ok_iff.2 ?_, Logging.ofTable_eq_ok_iff.2 ?_⟩
  · have texts : ∀ entry ∈ table ⟨level, fileLevel?, file?⟩, ∃ text, entry.2 = .string text := by
      simp only [table, optionalEntry, List.forall_mem_cons, List.forall_mem_append,
        Option.mem_toList, Option.map_eq_some_iff]
      refine ⟨⟨level, rfl⟩, ?_, ?_⟩
      · rintro _ ⟨text, -, rfl⟩
        exact ⟨text, rfl⟩
      · rintro _ ⟨text, -, rfl⟩
        exact ⟨text, rfl⟩
    intro entry member
    obtain ⟨text, same⟩ := texts entry member
    rw [same, check_string]
  · cases fileLevel? <;> cases file? <;> exact ⟨rfl, rfl, rfl⟩

/-- Some file says what there is to say. -/
theorem says_written {settings : Settings} (known : settings.version = 1) :
    Says (.bytes (String.ofList (written settings)).toUTF8) settings := by
  refine ⟨_, ⟨_, rfl, parse?_written settings⟩, Settings.ofTable_eq_ok_iff.2
    ⟨firstError_eq_ok_iff.2 ?_, OffDuty.read_table _, Logging.read_table _, _, rfl, ?_⟩⟩
  · simp only [List.forall_mem_cons, List.not_mem_nil, false_imp_iff, implies_true, and_true]
    refine ⟨rfl, ?_, ?_⟩
    · show (OffDuty.read _).map _ = .ok ()
      rw [OffDuty.read_table]
      rfl
    · show (Logging.read _).map _ = .ok ()
      rw [Logging.read_table]
      rfl
  · rw [known]
    rfl

end Almanac.Config
