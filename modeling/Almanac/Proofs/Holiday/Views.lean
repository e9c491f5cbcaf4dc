import Almanac.Proofs.Calendar.Order
import Almanac.Proofs.Holiday.Resolution
import Mathlib.Data.List.Dedup
import Mathlib.Data.List.Sort

/-! The views of a list of holidays.

A listing is by date when it holds the holidays themselves, each as often as they do, with the dates
in order and those of one date in the order given (`IsByDate`). `byDate` is such a listing
(`isByDate_byDate`) and the only one (`eq_byDate`), and `dates` says of which dates there are any,
each once and in order (`pairwise_dates`, `mem_dates_iff`). What the views say does not depend on the
order in which the templates were given, but for the holidays of one date, which keep it
(`views_agree`). -/
namespace Almanac.Holidays

/-- A listing of holidays by date. -/
structure IsByDate (h : Holidays) (listing : List Holiday) : Prop where
  perm : listing.Perm h.entries
  ordered : listing.Pairwise (·.date ≤ ·.date)
  /-- The holidays of one date stand in the order given. -/
  stable : ∀ date, (listing.filter fun holiday => holiday.date = date) =
    h.entries.filter fun holiday => holiday.date = date

/-- Sorting by date moves no two holidays of one date. -/
theorem filter_byDate (h : Holidays) (date : Date) :
    (h.byDate.filter fun holiday => holiday.date = date) =
      h.entries.filter fun holiday => holiday.date = date := by
  have alike : (h.entries.filter fun holiday => holiday.date = date).Pairwise
      fun a b => decide (a.date ≤ b.date) = true := by
    refine List.pairwise_iff_forall_sublist.2 fun {a b} pair => ?_
    have ofDate (c : Holiday) (hc : c ∈ [a, b]) : c.date = date :=
      of_decide_eq_true (List.mem_filter.1 (pair.subset hc)).2
    rw [ofDate a (by simp), ofDate b (by simp)]
    exact decide_eq_true (Std.le_refl date)
  have inside : (h.entries.filter fun holiday => holiday.date = date).Sublist h.byDate :=
    List.sublist_mergeSort (fun a b c => decide_le_trans a.date b.date c.date)
      (fun a b => decide_le_total a.date b.date) alike List.filter_sublist
  have kept := inside.filter fun holiday => decide (holiday.date = date)
  simp only [List.filter_filter, Bool.and_self] at kept
  exact (kept.eq_of_length ((List.mergeSort_perm _ _).filter _).length_eq.symm).symm

theorem isByDate_byDate (h : Holidays) : h.IsByDate h.byDate where
  perm := List.mergeSort_perm _ _
  ordered := (List.pairwise_mergeSort (fun a b c => decide_le_trans a.date b.date c.date)
    (fun a b => decide_le_total a.date b.date) h.entries).imp of_decide_eq_true
  stable := filter_byDate h

theorem pairwise_dates (h : Holidays) : h.dates.Pairwise (· < ·) :=
  pairwise_ascending _

theorem mem_dates_iff {h : Holidays} {listing : List Holiday} (by_ : h.IsByDate listing)
    {date : Date} : date ∈ h.dates ↔ ∃ holiday ∈ listing, holiday.date = date := by
  rw [dates, mem_ascending, List.mem_map]
  exact exists_congr fun holiday => and_congr_left' by_.perm.mem_iff.symm

/-! ### One listing by date -/

/-- Listings in the order of the dates are told by the holidays of each date. -/
theorem eq_of_filter_eq {l m : List Holiday} (hl : l.Pairwise (·.date ≤ ·.date))
    (hm : m.Pairwise (·.date ≤ ·.date))
    (same : ∀ date, (l.filter fun holiday => holiday.date = date) =
      m.filter fun holiday => holiday.date = date) : l = m := by
  induction l generalizing m with
  | nil =>
    cases m with
    | nil => rfl
    | cons b m => simpa using same b.date
  | cons a l ih =>
    cases m with
    | nil => simpa using same a.date
    | cons b m =>
      have shared (holiday : Holiday) : holiday ∈ a :: l ↔ holiday ∈ b :: m := by
        have alike := congrArg (holiday ∈ ·) (same holiday.date)
        simpa [List.mem_filter] using alike
      have earliest {first : Holiday} {rest : List Holiday}
          (h : (first :: rest).Pairwise (·.date ≤ ·.date)) {holiday : Holiday}
          (here : holiday ∈ first :: rest) : first.date ≤ holiday.date := by
        obtain rfl | here := List.mem_cons.1 here
        · exact Std.le_refl _
        · exact List.rel_of_pairwise_cons h here
      -- Each of the two first holidays is in the other list, so neither is the later one.
      have first : b.date = a.date := Std.le_antisymm
        (earliest hm ((shared a).1 List.mem_cons_self))
        (earliest hl ((shared b).2 List.mem_cons_self))
      have heads := same a.date
      rw [List.filter_cons_of_pos (by simp), List.filter_cons_of_pos (by simp [first])] at heads
      obtain ⟨rfl, behind⟩ := List.cons.inj heads
      refine congrArg (a :: ·) (ih hl.of_cons hm.of_cons fun date => ?_)
      by_cases here : a.date = date
      · rw [← here, behind]
      · have others := same date
        rwa [List.filter_cons_of_neg (by simpa using here),
          List.filter_cons_of_neg (by simpa using here)] at others

theorem eq_byDate {h : Holidays} {listing : List Holiday} (by_ : h.IsByDate listing) :
    listing = h.byDate :=
  eq_of_filter_eq by_.ordered (isByDate_byDate h).ordered fun date =>
    (by_.stable date).trans (filter_byDate h date).symm

/-! ### Dates -/

theorem pairwise_date_byDate (h : Holidays) : (h.byDate.map (·.date)).Pairwise (· ≤ ·) :=
  List.pairwise_map.2 (isByDate_byDate h).ordered

/-- The distinct dates are those of the listing by date, each once. -/
theorem dates_eq_dedup (h : Holidays) : h.dates = (h.byDate.map (·.date)).dedup := by
  have ordered := (pairwise_date_byDate h).sublist (List.dedup_sublist _)
  have strict : (h.byDate.map (·.date)).dedup.Pairwise (· < ·) :=
    (ordered.and (List.nodup_dedup _)).imp fun le => Std.lt_of_le_of_ne le.1 le.2
  refine (pairwise_dates h).eq_of_mem_iff strict fun date => ?_
  rw [List.mem_dedup, List.mem_map, mem_dates_iff (isByDate_byDate h)]

theorem contains_iff {h : Holidays} {date : Date} : h.contains date = true ↔ date ∈ h.dates := by
  rw [contains, dates, mem_ascending, List.any_eq_true, List.mem_map]
  simp only [beq_iff_eq]

theorem isEmpty_iff {h : Holidays} : h.isEmpty = true ↔ h.dates = [] := by
  rw [isEmpty, List.isEmpty_iff]
  constructor
  · intro none
    refine List.eq_nil_iff_forall_not_mem.2 fun date here => ?_
    obtain ⟨holiday, listed, -⟩ := List.mem_map.1 (mem_ascending.1 here)
    rw [none] at listed
    cases listed
  · intro none
    refine List.eq_nil_iff_forall_not_mem.2 fun holiday here => ?_
    have dated : holiday.date ∈ h.dates := mem_ascending.2 (List.mem_map_of_mem here)
    rw [none] at dated
    cases dated

/-! ### Holidays in another order -/

/-- Two listings by date that differ at most in the order of the holidays of one date. -/
structure AlikeByDate (l m : List Holiday) : Prop where
  dates : l.map (·.date) = m.map (·.date)
  holidays : ∀ date, (l.filter fun holiday => holiday.date = date).Perm
    (m.filter fun holiday => holiday.date = date)

section Perm
variable {h h' : Holidays}

theorem dates_of_perm (perm : h'.entries.Perm h.entries) : h'.dates = h.dates := by
  refine (pairwise_dates h').eq_of_mem_iff (pairwise_dates h) fun date => ?_
  rw [dates, dates, mem_ascending, mem_ascending]
  exact (perm.map _).mem_iff

theorem contains_of_perm (perm : h'.entries.Perm h.entries) (date : Date) :
    h'.contains date = h.contains date := by
  rw [Bool.eq_iff_iff, contains_iff, contains_iff, dates_of_perm perm]

theorem alikeByDate_of_perm (perm : h'.entries.Perm h.entries) :
    AlikeByDate h'.byDate h.byDate where
  dates := by
    have moved := (isByDate_byDate h').perm.trans (perm.trans (isByDate_byDate h).perm.symm)
    exact (moved.map _).eq_of_pairwise' (pairwise_date_byDate h') (pairwise_date_byDate h)
  holidays date := by
    rw [filter_byDate, filter_byDate]
    exact perm.filter _

end Perm

/-- **The views agree.** The listing by date is the only one; the distinct dates are in order and are
those of the listing, each once; a date is a holiday when it is one of them; the listing is as long
as the holidays, and there are none exactly when there are no dates. A list of templates that is
resolved is resolved in any other order, with the same dates and with a listing that differs at most
in the order of the holidays of one date. -/
theorem views_agree :
    (∀ h : Holidays,
      (∀ listing, h.IsByDate listing ↔ listing = h.byDate) ∧
      h.dates.Pairwise (· < ·) ∧ h.dates = (h.byDate.map (·.date)).dedup ∧
      (∀ date, h.contains date = true ↔ date ∈ h.dates) ∧
      h.size = h.entries.length ∧ h.size = h.byDate.length ∧ (h.isEmpty = true ↔ h.dates = [])) ∧
    ∀ (templates templates' : List String) anchor h, templates'.Perm templates →
      resolve templates anchor = .ok h → ∃ h', resolve templates' anchor = .ok h' ∧
        h'.dates = h.dates ∧ (∀ date, h'.contains date = h.contains date) ∧
        AlikeByDate h'.byDate h.byDate := by
  constructor
  · intro h
    refine ⟨fun listing => ⟨eq_byDate, ?_⟩, pairwise_dates h, dates_eq_dedup h,
      fun date => contains_iff, rfl, (isByDate_byDate h).perm.length_eq.symm, isEmpty_iff⟩
    rintro rfl
    exact isByDate_byDate h
  · intro templates templates' anchor h perm resolved
    obtain ⟨h', resolved', moved⟩ := resolve_perm perm resolved
    exact ⟨h', resolved', dates_of_perm moved, contains_of_perm moved, alikeByDate_of_perm moved⟩

/-- Two names of one day change places. -/
theorem views_agree_new_year :
    (["2025-01-01", "YEAR-12-25", "<YEAR+1>-01-01"] : List String).Perm
        ["<YEAR+1>-01-01", "2025-01-01", "YEAR-12-25"] ∧
      resolve ["<YEAR+1>-01-01", "2025-01-01", "YEAR-12-25"] ⟨2024, 6, 1, by decide⟩ =
        .ok ⟨[⟨"<YEAR+1>-01-01", ⟨2025, 1, 1, by decide⟩⟩, ⟨"2025-01-01", ⟨2025, 1, 1, by decide⟩⟩,
          ⟨"YEAR-12-25", ⟨2024, 12, 25, by decide⟩⟩]⟩ ∧
      ∃ h', resolve ["2025-01-01", "YEAR-12-25", "<YEAR+1>-01-01"] ⟨2024, 6, 1, by decide⟩ = .ok h' ∧
        h'.contains ⟨2025, 1, 1, by decide⟩ = true := by
  have perm : (["2025-01-01", "YEAR-12-25", "<YEAR+1>-01-01"] : List String).Perm
      ["<YEAR+1>-01-01", "2025-01-01", "YEAR-12-25"] := by decide
  have resolved : resolve ["<YEAR+1>-01-01", "2025-01-01", "YEAR-12-25"] ⟨2024, 6, 1, by decide⟩ =
      .ok ⟨[⟨"<YEAR+1>-01-01", ⟨2025, 1, 1, by decide⟩⟩, ⟨"2025-01-01", ⟨2025, 1, 1, by decide⟩⟩,
        ⟨"YEAR-12-25", ⟨2024, 12, 25, by decide⟩⟩]⟩ := by decide +kernel
  obtain ⟨h', resolved', -, same, -⟩ := views_agree.2 _ _ _ _ perm resolved
  exact ⟨perm, resolved, h', resolved', (same _).trans (by decide)⟩

end Almanac.Holidays
