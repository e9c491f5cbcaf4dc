import Almanac.Proofs.Config.Settings
import Almanac.Proofs.Toml.Keys

/-! The error that is reported of a table.

Of the entries that are wrong, the one with the least key is reported, wherever it stands
(`leastKey_eq_some_iff`). A document has each key once, so only what its table gives for each key
matters: tables in which the same keys have the same errors are told by the same error
(`firstError_congr`), and documents whose parts are read alike make the same settings or have the
same error (`Settings.ofTable_congr`). -/
namespace Almanac.Config
open Toml (Value Table)

/-! ### The least key -/

section LeastKey
variable {α : Type} {entries : List (String × α)} {entry : String × α}

theorem leastKey_mem (h : leastKey entries = some entry) : entry ∈ entries := by
  induction entries generalizing entry with
  | nil => cases h
  | cons first entries ih =>
    rw [leastKey] at h
    split at h
    · obtain rfl := Option.some.inj h
      exact List.mem_cons_self
    · next other found =>
      split at h
      · obtain rfl := Option.some.inj h
        exact List.mem_cons_of_mem _ (ih found)
      · obtain rfl := Option.some.inj h
        exact List.mem_cons_self

theorem leastKey_le (h : leastKey entries = some entry) : ∀ other ∈ entries, entry.1 ≤ other.1 := by
  induction entries generalizing entry with
  | nil => cases h
  | cons first entries ih =>
    rw [leastKey] at h
    split at h
    · next none =>
      obtain rfl := Option.some.inj h
      obtain rfl := leastKey_eq_none_iff.1 none
      exact List.forall_mem_singleton.2 (Std.le_refl _)
    · next least found =>
      split at h
      · next less =>
        obtain rfl := Option.some.inj h
        exact List.forall_mem_cons.2 ⟨Std.le_of_lt less, ih found⟩
      · next greater =>
        obtain rfl := Option.some.inj h
        exact List.forall_mem_cons.2 ⟨Std.le_refl _, fun other member =>
          Std.le_trans (Std.not_lt.1 greater) (ih found other member)⟩

/-- Where each key stands once, no other entry has the least key. -/
theorem leastKey_eq_some_iff (nodup : (entries.map Prod.fst).Nodup) :
    leastKey entries = some entry ↔
      entry ∈ entries ∧ ∀ other ∈ entries, entry.1 ≤ other.1 := by
  constructor
  · intro h
    exact ⟨leastKey_mem h, leastKey_le h⟩
  · rintro ⟨member, least⟩
    cases found : leastKey entries with
    | none =>
      rw [leastKey_eq_none_iff.1 found] at member
      cases member
    | some other =>
      have listed := leastKey_mem found
      have same : other.1 = entry.1 := Std.le_antisymm (leastKey_le found entry member)
        (least other listed)
      rw [List.inj_on_of_nodup_map nodup listed member same]

end LeastKey

/-! ### Errors -/

/-- What a table gives for a key is wrong, with this error. -/
def Wrong (check : String → Value → Except ShapeError Unit) (table : Table) (key : String)
    (e : ShapeError) : Prop :=
  ∃ value, table.lookup key = some value ∧ check key value = .error e

/-- The entries of a table that are wrong, with their errors. -/
def errorsOf (check : String → Value → Except ShapeError Unit) (table : Table) :
    List (String × ShapeError) :=
  table.filterMap fun (key, value) =>
    match check key value with
    | .ok _ => none
    | .error e => some (key, e)

/-- The error that comes first, if there is one. -/
def reported : Option (String × ShapeError) → Except ShapeError Unit
  | some (_, e) => .error e
  | none => .ok ()

section Errors
variable {check : String → Value → Except ShapeError Unit} {table table' : Table}

theorem errorsOf_keys : ((errorsOf check table).map Prod.fst).Sublist (table.map Prod.fst) := by
  induction table with
  | nil => exact .slnil
  | cons entry table ih =>
    obtain ⟨key, value⟩ := entry
    unfold errorsOf at ih ⊢
    rw [List.filterMap_cons]
    dsimp only
    cases check key value with
    | ok _ => exact ih.cons key
    | error e => exact ih.cons_cons key

theorem mem_errorsOf (nodup : (table.map Prod.fst).Nodup) {key : String} {e : ShapeError} :
    (key, e) ∈ errorsOf check table ↔ Wrong check table key e := by
  unfold errorsOf Wrong
  simp only [List.mem_filterMap, Toml.lookup_eq_some_iff_mem nodup]
  constructor
  · rintro ⟨⟨key', value⟩, member, h⟩
    dsimp only at h
    split at h
    · cases h
    · next failed =>
      obtain ⟨rfl, rfl⟩ := Prod.mk.inj (Option.some.inj h)
      exact ⟨value, member, failed⟩
  · rintro ⟨value, member, failed⟩
    refine ⟨(key, value), member, ?_⟩
    dsimp only
    rw [failed]

theorem firstError_eq (check : String → Value → Except ShapeError Unit) (table : Table) :
    firstError check table = reported (leastKey (errorsOf check table)) :=
  rfl

/-- Which error is reported is told by the errors that the keys have. -/
theorem firstError_congr (nodup : (table.map Prod.fst).Nodup)
    (nodup' : (table'.map Prod.fst).Nodup)
    (same : ∀ key e, Wrong check table key e ↔ Wrong check table' key e) :
    firstError check table = firstError check table' := by
  have members (entry : String × ShapeError) :
      entry ∈ errorsOf check table ↔ entry ∈ errorsOf check table' :=
    (mem_errorsOf nodup).trans ((same _ _).trans (mem_errorsOf nodup').symm)
  have least : leastKey (errorsOf check table) = leastKey (errorsOf check table') := by
    refine Option.ext fun entry => ?_
    rw [leastKey_eq_some_iff (nodup.sublist errorsOf_keys),
      leastKey_eq_some_iff (nodup'.sublist errorsOf_keys)]
    simp only [members]
  rw [firstError_eq, firstError_eq, least]

end Errors

/-- A part that is read or left out is wrong when reading it is. -/
theorem wrong_iff_readOr {α : Type} {default : α} {read : Value → Except ShapeError α}
    {check : String → Value → Except ShapeError Unit} {part : String}
    (checks : ∀ value, check part value = (read value).map fun _ => ()) {table : Table}
    {e : ShapeError} : Wrong check table part e ↔ readOr default read table part = .error e := by
  unfold Wrong readOr
  cases table.lookup part with
  | none => simp
  | some value => simp [checks, map_eq_error_iff]

/-- Documents whose parts are read alike make the same settings, or have the same error. -/
theorem Settings.ofTable_congr {document document' : Table}
    (nodup : (document.map Prod.fst).Nodup) (nodup' : (document'.map Prod.fst).Nodup)
    (offDuty : readOr OffDuty.default OffDuty.read document' "off_duty" =
      readOr OffDuty.default OffDuty.read document "off_duty")
    (logging : readOr Logging.default Logging.read document' "logging" =
      readOr Logging.default Logging.read document "logging")
    (others : ∀ key, key ≠ "off_duty" → key ≠ "logging" →
      document'.lookup key = document.lookup key) :
    Settings.ofTable document' = Settings.ofTable document := by
  have checked : firstError check document' = firstError check document := by
    refine firstError_congr nodup' nodup fun key e => ?_
    by_cases isOffDuty : key = "off_duty"
    · subst isOffDuty
      rw [wrong_iff_readOr (fun _ => rfl), wrong_iff_readOr (fun _ => rfl), offDuty]
    · by_cases isLogging : key = "logging"
      · subst isLogging
        rw [wrong_iff_readOr (fun _ => rfl), wrong_iff_readOr (fun _ => rfl), logging]
      · unfold Wrong
        rw [others key isOffDuty isLogging]
  have version := others "version" (by decide) (by decide)
  rw [Settings.ofTable, checked, offDuty, logging, version]
  rfl

end Almanac.Config
