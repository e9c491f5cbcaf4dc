import Almanac.Proofs.Config.Document
import Almanac.Proofs.Config.Meaning
import Almanac.Proofs.Config.Settings
import Almanac.Proofs.Toml.Writing
import Mathlib.Control.Monad.Basic
import Mathlib.Data.List.Permutation

/-! A configuration of templates alone.

Of a document only the version has to be there. One that has the version and a list of templates and
nothing else (`ListsOnly`) takes the working days, the working hours and the log settings from the
defaults, and these mean something; so whether it loads, and what it holds, is up to its templates
(`ofContents_of_listsOnly`). -/
namespace Almanac.Config
open Toml (Value Table)

/-- A document of a version and a list of templates, in either order. -/
def ListsOnly (document : Table) (templates : List String) : Prop :=
  document.Perm [("version", .integer 1),
    ("off_duty", .table [("holidays", .array (templates.map .string))])]

/-- The off-duty settings with these templates and the default days and hours. -/
def OffDuty.ofTemplates (templates : List String) : OffDuty :=
  { OffDuty.default with holidays := templates }

theorem OffDuty.read_templates (templates : List String) :
    OffDuty.read (.table [("holidays", .array (templates.map .string))]) =
      .ok (.ofTemplates templates) := by
  have listed : readStrings (.array (templates.map .string)) = .ok templates :=
    readStrings_eq_ok_iff.2 rfl
  rw [OffDuty.read_eq]
  refine readPart_eq_ok_iff.2 ⟨_, rfl, firstError_eq_ok_iff.2 ?_, ?_⟩
  · refine List.forall_mem_singleton.2 ?_
    show (readStrings _).map _ = .ok ()
    rw [listed]
    rfl
  · exact OffDuty.ofTable_eq_ok_iff.2 ⟨rfl, rfl, listed⟩

theorem ListsOnly.ofTable_eq {document : Table} {templates : List String}
    (h : ListsOnly document templates) :
    Settings.ofTable document = .ok ⟨1, .ofTemplates templates, .default⟩ := by
  have lookups : document.lookup "version" = some (.integer 1) ∧
      document.lookup "off_duty" =
        some (.table [("holidays", .array (templates.map .string))]) ∧
      document.lookup "logging" = none := by
    rcases List.perm_pair.1 h with rfl | rfl
    · exact ⟨rfl, rfl, rfl⟩
    · exact ⟨rfl, rfl, rfl⟩
  obtain ⟨version, offDuty, logging⟩ := lookups
  refine Settings.ofTable_eq_ok_iff.2 ⟨firstError_eq_ok_iff.2 fun entry member => ?_,
    readOr_eq_ok_iff.2 (.inr ⟨_, offDuty, OffDuty.read_templates templates⟩),
    readOr_eq_ok_iff.2 (.inl ⟨logging, rfl⟩), _, version, rfl⟩
  have member := h.mem_iff.1 member
  rw [List.mem_cons, List.mem_singleton] at member
  rcases member with rfl | rfl
  · rfl
  · show (OffDuty.read _).map _ = .ok ()
    rw [OffDuty.read_templates]
    rfl

/-! ### A file for every list -/

/-- What a file holds that lists templates, one to a line. -/
def listing (templates : List String) : List Char :=
  "version = 1\n".toList ++ ("[off_duty]\n".toList ++ ("holidays = ".toList ++
    (Toml.writtenArray templates ++ ['\n'])))

theorem reads_listing (templates : List String) : Toml.Reads (listing templates)
    [.assign ["version"] (.integer 1), .openTable ["off_duty"],
      .assign ["holidays"] (.array (templates.map .string))] := by
  have line : "holidays = ".toList ++ (Toml.writtenArray templates ++ ['\n']) =
      Toml.line "holidays".toList (Toml.writtenArray templates) ++ [] := by simp [Toml.line]
  refine Toml.Reads.cons ?_ rfl rfl rfl
  refine Toml.Reads.cons ?_ rfl rfl rfl
  rw [line]
  exact Toml.reads_nil.array (by decide) (by decide) templates

theorem tableOf?_listing (holidays : Value) :
    Toml.tableOf? [.assign ["version"] (.integer 1), .openTable ["off_duty"],
      .assign ["holidays"] holidays] =
        some [("version", .integer 1), ("off_duty", .table [("holidays", holidays)])] :=
  rfl

theorem parse?_listing (templates : List String) :
    Toml.parse? (String.ofList (listing templates)) = some [("version", .integer 1),
      ("off_duty", .table [("holidays", .array (templates.map .string))])] := by
  have unmarked : (listing templates).head? ≠ some '\ufeff' := fun mark =>
    absurd (Option.some.inj mark) (by decide)
  have enough : 3 ≤ (listing templates).length := by
    unfold listing
    rw [List.length_append]
    exact Nat.le_add_right_of_le (by decide)
  rw [Toml.parse?_of_reads (reads_listing templates) unmarked enough]
  exact tableOf?_listing _

/-- Every list of templates is what some file lists. -/
theorem exists_listsOnly (templates : List String) :
    ∃ text document, Toml.parse? text = some document ∧ ListsOnly document templates :=
  ⟨_, _, parse?_listing templates, List.Perm.refl _⟩

/-! ### The defaults -/

/-- From Monday to Friday. -/
def workWeek : List Weekday :=
  [.monday, .tuesday, .wednesday, .thursday, .friday]

/-- The morning and the afternoon. -/
def workTime : List HourInterval :=
  [⟨8, 12⟩, ⟨13, 17⟩]

theorem readWorkDays_default : readWorkDays OffDuty.default.workDays = .ok workWeek := by
  rw [readWorkDays_eq_filter]
  decide +kernel

theorem readWorkHours_default : readWorkHours OffDuty.default.workHours = .ok workTime := by
  rw [readWorkHours_eq]
  refine readListed_eq_ok_iff.2 ⟨by decide, workTime, by decide +kernel, ?_⟩
  rw [ascending, List.mergeSort_of_pairwise (by decide)]
  rfl

/-! ### Loading -/

/-- A configuration of these holidays, and otherwise of the defaults. -/
def ofHolidays (anchor : Date) (holidays : Holidays) : Config :=
  ⟨anchor, workWeek, workTime, holidays, .default⟩

/-- The templates decide. -/
theorem ofContents_of_listsOnly {contents : Contents} {document : Table} {templates : List String}
    (decodes : Decodes contents document) (only : ListsOnly document templates)
    (env : Environment) (path : String) (anchor : Date) :
    ofContents env path anchor contents =
      ((Holidays.resolve templates anchor).mapError (.invalidHoliday path)).map
        (ofHolidays anchor) := by
  have said : Says contents ⟨1, .ofTemplates templates, .default⟩ :=
    ⟨document, decodes, only.ofTable_eq⟩
  have days : readWorkDays (OffDuty.ofTemplates templates).workDays = .ok workWeek :=
    readWorkDays_default
  have hours : readWorkHours (OffDuty.ofTemplates templates).workHours = .ok workTime :=
    readWorkHours_default
  rw [said.ofContents_eq, ofSettings_eq, days, hours]
  show (Except.mapError _ (Holidays.resolve templates anchor) >>= _) = _
  cases Holidays.resolve templates anchor with
  | ok holidays => rfl
  | error error => rfl

end Almanac.Config
