import Almanac.Holiday.Basic
import Mathlib.Data.List.Perm.Basic

/-! Resolving a list of templates.

The templates of a list are resolved one after the other, and the place of each goes along. A list
is resolved when each of its templates is, and keeps their order (`resolve_eq_ok_iff`); otherwise it
fails at the first that is not, with that template's place and rejection (`resolve_eq_error_iff`).
Templates taken in turn without their places fare alike (`mapM_resolve`). A list in two parts fares
as its first part does when that fails, and else as the second, whose places count from the end of
the first (`resolve_append`); and a list that is resolved is resolved in any other order, to the same
holidays in another order (`resolve_perm`). -/
namespace Almanac

theorem Holiday.resolve_eq_ok_iff {template : String} {anchor : Date} {holiday : Holiday} :
    Holiday.resolve template anchor = .ok holiday ↔
      holiday.template = template ∧ Template.resolve template anchor = .ok holiday.date := by
  rw [Holiday.resolve, map_eq_ok_iff]
  constructor
  · intro h
    obtain ⟨date, h, rfl⟩ := h
    exact ⟨rfl, h⟩
  · intro h
    obtain ⟨rfl, h⟩ := h
    exact ⟨holiday.date, h, rfl⟩

theorem Holiday.resolve_eq_error_iff {template : String} {anchor : Date} {rejection : Rejection} :
    Holiday.resolve template anchor = .error rejection ↔
      Template.resolve template anchor = .error rejection :=
  map_eq_error_iff

/-! ### The first rejection -/

/-- The first template of a list that names no date, told by its place, from 0: every template
before it names one. -/
structure FirstRejection (anchor : Date) (templates : List String) (place : Nat)
    (rejection : Rejection) : Prop where
  earlier : ∀ template ∈ templates.take place, ∃ date, Template.resolve template anchor = .ok date
  found : ∃ template, templates[place]? = some template ∧
    Template.resolve template anchor = .error rejection

namespace FirstRejection
variable {anchor : Date} {template : String} {templates : List String} {rejection : Rejection}

theorem not_nil {place : Nat} : ¬ FirstRejection anchor [] place rejection := by
  intro first
  obtain ⟨template, here, -⟩ := first.found
  cases here

theorem zero_iff : FirstRejection anchor (template :: templates) 0 rejection ↔
    Template.resolve template anchor = .error rejection := by
  constructor
  · intro first
    obtain ⟨found, here, rejected⟩ := first.found
    obtain rfl := Option.some.inj here
    exact rejected
  · intro rejected
    exact ⟨List.forall_mem_nil _, template, rfl, rejected⟩

theorem succ_iff {place : Nat} :
    FirstRejection anchor (template :: templates) (place + 1) rejection ↔
    (∃ date, Template.resolve template anchor = .ok date) ∧
      FirstRejection anchor templates place rejection := by
  constructor
  · intro first
    obtain ⟨earlier, found⟩ := first
    rw [List.take_succ_cons, List.forall_mem_cons] at earlier
    exact ⟨earlier.1, earlier.2, found⟩
  · intro first
    obtain ⟨named, earlier, found⟩ := first
    refine ⟨?_, found⟩
    rw [List.take_succ_cons, List.forall_mem_cons]
    exact ⟨named, earlier⟩

end FirstRejection

/-! ### Lists with places -/

/-- The error of a list that stands behind other templates. -/
def HolidayError.behind (places : Nat) (error : HolidayError) : HolidayError :=
  ⟨error.index + places, error.rejection⟩

namespace Holidays
variable {anchor : Date} {templates : List String}

theorem resolveFrom_eq_ok_iff {index : Nat} {entries : List Holiday} :
    resolveFrom anchor index templates = .ok entries ↔ entries.map (·.template) = templates ∧
      ∀ holiday ∈ entries, Template.resolve holiday.template anchor = .ok holiday.date := by
  induction templates generalizing index entries with
  | nil =>
    rw [resolveFrom, List.map_eq_nil_iff]
    constructor
    · intro h
      obtain rfl := Except.ok.inj h
      exact ⟨rfl, List.forall_mem_nil _⟩
    · intro h
      rw [h.1]
  | cons template templates ih =>
    rw [resolveFrom, bind_eq_ok_iff]
    constructor
    · intro h
      obtain ⟨holiday, first, h⟩ := h
      obtain ⟨rest, others, h⟩ := bind_eq_ok_iff.1 h
      obtain rfl := Except.ok.inj h
      obtain ⟨rfl, named⟩ := Holiday.resolve_eq_ok_iff.1 (mapError_eq_ok_iff.1 first)
      obtain ⟨rfl, namedOthers⟩ := ih.1 others
      exact ⟨rfl, List.forall_mem_cons.2 ⟨named, namedOthers⟩⟩
    · intro h
      obtain ⟨written, h⟩ := h
      cases entries with
      | nil => cases written
      | cons holiday rest =>
        rw [List.map_cons, List.cons.injEq] at written
        rw [List.forall_mem_cons, written.1] at h
        exact ⟨holiday, mapError_eq_ok_iff.2 (Holiday.resolve_eq_ok_iff.2 ⟨written.1, h.1⟩),
          bind_eq_ok_iff.2 ⟨rest, ih.2 ⟨written.2, h.2⟩, rfl⟩⟩

theorem resolveFrom_eq_error_iff {index : Nat} {error : HolidayError} :
    resolveFrom anchor index templates = .error error ↔ ∃ place, error.index = index + place ∧
      FirstRejection anchor templates place error.rejection := by
  induction templates generalizing index with
  | nil =>
    constructor
    · intro h
      cases h
    · intro h
      obtain ⟨place, -, first⟩ := h
      exact absurd first FirstRejection.not_nil
  | cons template templates ih =>
    rw [resolveFrom, bind_eq_error_iff]
    constructor
    · intro h
      rcases h with first | ⟨holiday, first, h⟩
      · obtain ⟨rejection, rejected, rfl⟩ := mapError_eq_error_iff.1 first
        exact ⟨0, rfl, FirstRejection.zero_iff.2 (Holiday.resolve_eq_error_iff.1 rejected)⟩
      · have named := (Holiday.resolve_eq_ok_iff.1 (mapError_eq_ok_iff.1 first)).2
        rcases bind_eq_error_iff.1 h with later | ⟨rest, -, h⟩
        · obtain ⟨place, reached, behind⟩ := ih.1 later
          exact ⟨place + 1, by omega, FirstRejection.succ_iff.2 ⟨⟨_, named⟩, behind⟩⟩
        · cases h
    · intro h
      obtain ⟨place, reached, first⟩ := h
      cases place with
      | zero =>
        have rejected := Holiday.resolve_eq_error_iff.2 (FirstRejection.zero_iff.1 first)
        refine .inl (mapError_eq_error_iff.2 ⟨error.rejection, rejected, ?_⟩)
        rw [← Nat.add_zero index, ← reached]
      | succ place =>
        obtain ⟨⟨date, named⟩, later⟩ := FirstRejection.succ_iff.1 first
        have here : Holiday.resolve template anchor = .ok ⟨template, date⟩ :=
          Holiday.resolve_eq_ok_iff.2 ⟨rfl, named⟩
        exact .inr ⟨_, mapError_eq_ok_iff.2 here,
          bind_eq_error_iff.2 (.inl (ih.2 ⟨place, by omega, later⟩))⟩

/-- A list is resolved when each of its templates is, and keeps their order. -/
theorem resolve_eq_ok_iff {holidays : Holidays} :
    resolve templates anchor = .ok holidays ↔ holidays.templates = templates ∧
      ∀ holiday ∈ holidays.entries,
        Template.resolve holiday.template anchor = .ok holiday.date := by
  rw [resolve, map_eq_ok_iff]
  constructor
  · intro h
    obtain ⟨entries, h, rfl⟩ := h
    exact resolveFrom_eq_ok_iff.1 h
  · intro h
    exact ⟨holidays.entries, resolveFrom_eq_ok_iff.2 h, rfl⟩

/-- A list that is not resolved fails at its first rejection. -/
theorem resolve_eq_error_iff {error : HolidayError} : resolve templates anchor = .error error ↔
    FirstRejection anchor templates error.index error.rejection := by
  rw [resolve, map_eq_error_iff, resolveFrom_eq_error_iff]
  constructor
  · intro h
    obtain ⟨place, reached, first⟩ := h
    rw [reached, Nat.zero_add]
    exact first
  · intro first
    exact ⟨error.index, (Nat.zero_add _).symm, first⟩

/-! ### Lists without places -/

theorem mapM_resolveFrom (index : Nat) (templates : List String) :
    templates.mapM (Holiday.resolve · anchor) =
      (resolveFrom anchor index templates).mapError (·.rejection) := by
  induction templates generalizing index with
  | nil => rfl
  | cons template templates ih =>
    rw [List.mapM_cons, resolveFrom, ih (index + 1)]
    cases Holiday.resolve template anchor with
    | error rejection => rfl
    | ok holiday =>
      show (resolveFrom anchor (index + 1) templates).mapError _ >>= _ =
        Except.mapError _ (resolveFrom anchor (index + 1) templates >>= _)
      cases resolveFrom anchor (index + 1) templates with
      | error error => rfl
      | ok rest => rfl

/-- Templates taken in turn end as the list does, without the place of the first rejection. -/
theorem mapM_resolve (templates : List String) : templates.mapM (Holiday.resolve · anchor) =
    ((resolve templates anchor).mapError (·.rejection)).map (·.entries) := by
  rw [mapM_resolveFrom 0, resolve]
  cases resolveFrom anchor 0 templates with
  | error error => rfl
  | ok entries => rfl

/-! ### Two anchors -/

/-- Anchors from which every template of a list leads to the same give the same holidays. -/
theorem resolve_congr {a b : Date} {templates : List String}
    (same : ∀ template ∈ templates, Template.resolve template a = Template.resolve template b) :
    resolve templates a = resolve templates b := by
  have stepwise (index : Nat) : resolveFrom a index templates = resolveFrom b index templates := by
    induction templates generalizing index with
    | nil => rfl
    | cons template templates ih =>
      rw [List.forall_mem_cons] at same
      rw [resolveFrom, resolveFrom, Holiday.resolve, Holiday.resolve, same.1, ih same.2]
  rw [resolve, resolve, stepwise 0]

/-! ### Lists in two parts -/

theorem exists_resolve_iff : (∃ holidays, resolve templates anchor = .ok holidays) ↔
    ∀ template ∈ templates, ∃ date, Template.resolve template anchor = .ok date := by
  constructor
  · intro h template here
    obtain ⟨holidays, h⟩ := h
    obtain ⟨rfl, named⟩ := resolve_eq_ok_iff.1 h
    obtain ⟨holiday, listed, rfl⟩ := List.mem_map.1 here
    exact ⟨holiday.date, named holiday listed⟩
  · intro named
    refine Classical.byContradiction fun unresolved => ?_
    obtain ⟨error, h⟩ := exists_error_iff.2 unresolved
    obtain ⟨template, here, rejected⟩ := (resolve_eq_error_iff.1 h).found
    obtain ⟨date, h⟩ := named template (List.mem_of_getElem? here)
    cases h.symm.trans rejected

/-- Places are counted from the place of the first template. -/
theorem resolveFrom_add (index places : Nat) (templates : List String) :
    resolveFrom anchor (index + places) templates =
      (resolveFrom anchor index templates).mapError (.behind places) := by
  induction templates generalizing index with
  | nil => rfl
  | cons template templates ih =>
    rw [resolveFrom, resolveFrom, Nat.add_right_comm, ih (index + 1)]
    cases Holiday.resolve template anchor with
    | error rejection => rfl
    | ok holiday => cases resolveFrom anchor (index + 1) templates <;> rfl

theorem resolveFrom_append (index : Nat) (xs ys : List String) :
    resolveFrom anchor index (xs ++ ys) = resolveFrom anchor index xs >>= fun front =>
      resolveFrom anchor (index + xs.length) ys >>= fun back => .ok (front ++ back) := by
  induction xs generalizing index with
  | nil =>
    show resolveFrom anchor index ys =
      resolveFrom anchor index ys >>= fun back => .ok ([] ++ back)
    cases resolveFrom anchor index ys <;> rfl
  | cons template xs ih =>
    have places : index + (xs.length + 1) = index + 1 + xs.length := by omega
    rw [List.cons_append, resolveFrom, resolveFrom, ih (index + 1), List.length_cons, places]
    cases Holiday.resolve template anchor with
    | error rejection => rfl
    | ok holiday =>
      cases resolveFrom anchor (index + 1) xs with
      | error error => rfl
      | ok front => cases resolveFrom anchor (index + 1 + xs.length) ys <;> rfl

/-- The first part is resolved, then the second. -/
theorem resolve_append (xs ys : List String) :
    resolve (xs ++ ys) anchor = resolve xs anchor >>= fun front =>
      (resolve ys anchor).mapError (.behind xs.length) >>= fun back =>
        .ok ⟨front.entries ++ back.entries⟩ := by
  rw [resolve, resolve, resolve, resolveFrom_append, resolveFrom_add]
  cases resolveFrom anchor 0 xs with
  | error error => rfl
  | ok front => cases resolveFrom anchor 0 ys <;> rfl

/-! ### Lists in another order -/

theorem resolve_eq_ok_iff_map {holidays : Holidays} : resolve templates anchor = .ok holidays ↔
    templates.map (Holiday.resolve · anchor) = holidays.entries.map .ok := by
  rw [← mapM_eq_ok_iff, mapM_resolve, map_eq_ok_iff]
  simp only [mapError_eq_ok_iff]
  constructor
  · intro h
    exact ⟨holidays, h, rfl⟩
  · intro h
    obtain ⟨⟨entries⟩, h, rfl⟩ := h
    exact h

/-- The holidays of a list move as its templates do. -/
theorem resolve_perm {templates' : List String} {holidays : Holidays}
    (perm : templates'.Perm templates) (h : resolve templates anchor = .ok holidays) :
    ∃ holidays', resolve templates' anchor = .ok holidays' ∧
      holidays'.entries.Perm holidays.entries := by
  have named := exists_resolve_iff.1 ⟨holidays, h⟩
  obtain ⟨holidays', h'⟩ := exists_resolve_iff.2 fun template here =>
    named template (perm.mem_iff.1 here)
  refine ⟨holidays', h', ?_⟩
  have outcomes := perm.map (Holiday.resolve · anchor)
  rw [resolve_eq_ok_iff_map.1 h, resolve_eq_ok_iff_map.1 h'] at outcomes
  exact (List.map_perm_map_iff fun _ _ => Except.ok.inj).1 outcomes

/-! ### Resolving any list -/

/-- **Resolving a list.** A list is resolved exactly when each of its templates is, to one holiday
for each template, in their order, with the template as written and the date it names. Otherwise it
fails at its first rejection. A list in two parts is resolved exactly when both are, to the holidays
of both; if the first part fails, it fails alike, and if only the second does, with the place counted
from the start of the first. -/
theorem resolve_in_order (anchor : Date) :
    (∀ templates, (∃ holidays, resolve templates anchor = .ok holidays) ↔
      ∀ template ∈ templates, ∃ date, Template.resolve template anchor = .ok date) ∧
    (∀ templates holidays, resolve templates anchor = .ok holidays ↔
      holidays.templates = templates ∧ ∀ holiday ∈ holidays.entries,
        Template.resolve holiday.template anchor = .ok holiday.date) ∧
    (∀ templates error, resolve templates anchor = .error error ↔
      FirstRejection anchor templates error.index error.rejection) ∧
    (∀ xs ys holidays, resolve (xs ++ ys) anchor = .ok holidays ↔ ∃ front back,
      resolve xs anchor = .ok front ∧ resolve ys anchor = .ok back ∧
        holidays.entries = front.entries ++ back.entries) ∧
    (∀ xs ys error, resolve xs anchor = .error error →
      resolve (xs ++ ys) anchor = .error error) ∧
    ∀ xs ys front error, resolve xs anchor = .ok front → resolve ys anchor = .error error →
      resolve (xs ++ ys) anchor = .error ⟨error.index + xs.length, error.rejection⟩ := by
  refine ⟨fun templates => exists_resolve_iff, fun templates holidays => resolve_eq_ok_iff,
    fun templates error => resolve_eq_error_iff, fun xs ys holidays => ?_, fun xs ys error first => ?_,
    fun xs ys front error first second => ?_⟩
  · rw [resolve_append, bind_eq_ok_iff]
    simp only [bind_eq_ok_iff, mapError_eq_ok_iff, Except.ok.injEq]
    constructor
    · intro h
      obtain ⟨front, first, back, second, rfl⟩ := h
      exact ⟨front, back, first, second, rfl⟩
    · intro h
      obtain ⟨front, back, first, second, parts⟩ := h
      exact ⟨front, first, back, second, parts ▸ rfl⟩
  · rw [resolve_append, first]
    rfl
  · rw [resolve_append, first, second]
    rfl

/-- A day that does not exist, in the second part of a list and in the first. -/
theorem resolve_in_order_february :
    Holidays.resolve ["YEAR-12-25", "YEAR-12-25"] ⟨2024, 6, 1, by decide⟩ =
        .ok ⟨[⟨"YEAR-12-25", ⟨2024, 12, 25, by decide⟩⟩, ⟨"YEAR-12-25", ⟨2024, 12, 25, by decide⟩⟩]⟩ ∧
      Holidays.resolve ["2024-01-01", "2024-02-30", "DAY"] ⟨2024, 6, 1, by decide⟩ =
        .error ⟨1, "2024-02-30", .noSuchDate 2024 2 30⟩ ∧
      Holidays.resolve (["YEAR-12-25", "YEAR-12-25"] ++ ["2024-01-01", "2024-02-30", "DAY"])
        ⟨2024, 6, 1, by decide⟩ = .error ⟨3, "2024-02-30", .noSuchDate 2024 2 30⟩ ∧
      Holidays.resolve (["2024-01-01", "2024-02-30", "DAY"] ++ ["YEAR-12-25", "YEAR-12-25"])
        ⟨2024, 6, 1, by decide⟩ = .error ⟨1, "2024-02-30", .noSuchDate 2024 2 30⟩ := by
  obtain ⟨-, -, -, -, first, second⟩ := resolve_in_order ⟨2024, 6, 1, by decide⟩
  have twice : Holidays.resolve ["YEAR-12-25", "YEAR-12-25"] ⟨2024, 6, 1, by decide⟩ =
      .ok ⟨[⟨"YEAR-12-25", ⟨2024, 12, 25, by decide⟩⟩, ⟨"YEAR-12-25", ⟨2024, 12, 25, by decide⟩⟩]⟩ := by
    decide +kernel
  have february : Holidays.resolve ["2024-01-01", "2024-02-30", "DAY"] ⟨2024, 6, 1, by decide⟩ =
      .error ⟨1, "2024-02-30", .noSuchDate 2024 2 30⟩ := by decide +kernel
  exact ⟨twice, february, second _ _ _ _ twice february, first _ _ _ february⟩

end Holidays

end Almanac
