import Almanac.Proofs.Calendar.Order
import Almanac.Proofs.Template.Anchor
import Almanac.Proofs.Template.Composition
import Almanac.Proofs.Template.Language

/-! A later anchor, a later date.

The same offsets keep two dates in order (`compose_mono`). So a template keeps the order of its
anchors when the date it starts from does. That date is put together from the anchor's values and
from numbers, and dates are compared by year, then month, then day; it follows the anchor as long
as no number stands before a value of the anchor's (`SymbolicFirst`). In `2024-MONTH-DAY` one does,
and 31 December 2023 leads to a later date than 1 January 2024. -/
namespace Almanac.Template

/-! ### The offsets -/

theorem number_dayAfterDays_le {p q : Triple Term}
    (same : ∀ field, (p.get field).offset = (q.get field).offset) {d e : Day}
    (h : d.number ≤ e.number) : (dayAfterDays d p).number ≤ (dayAfterDays e q).number := by
  have years : p.year.offset = q.year.offset := same .year
  have months : p.month.offset = q.month.offset := same .month
  have days : p.day.offset = q.day.offset := same .day
  unfold dayAfterDays dayAfterMonths dayAfterYears
  rw [years, months, days]
  exact Day.number_addDays_le (Day.number_addMonths_le (Day.number_addYears_le h _) _) _

theorem toDay_of_compose {terms : Triple Term} {base date : Date} (hb : baseDate terms = .ok base)
    (h : compose terms = .ok date) : date.toDay = dayAfterDays base.toDay terms := by
  obtain ⟨base', hb', steps⟩ := compose_eq_ok_iff.1 h
  obtain rfl := Except.ok.inj (hb.symm.trans hb')
  exact (applyOffsets_eq_some_iff.1 steps).2.2

/-- The same offsets keep two dates in order. -/
theorem compose_mono {p q : Triple Term}
    (same : ∀ field, (p.get field).offset = (q.get field).offset) {base base' x y : Date}
    (hp : baseDate p = .ok base) (hq : baseDate q = .ok base') (h : base ≤ base')
    (hx : compose p = .ok x) (hy : compose q = .ok y) : x ≤ y := by
  rw [Date.le_iff_dayNumber_le] at h ⊢
  rw [← Day.number_toDay, ← Day.number_toDay, toDay_of_compose hp hx, toDay_of_compose hq hy]
  exact number_dayAfterDays_le same h

/-! ### The date to start from -/

/-- No literal field stands before a symbolic one. -/
def SymbolicFirst (fields : Triple String) : Prop :=
  ∀ earlier later : Field, earlier < later → IsSymbolic later (fields.get later) →
    IsSymbolic earlier (fields.get earlier)

theorem valueOf_of_baseDate {terms : Triple Term} {base : Date} (h : baseDate terms = .ok base)
    (field : Field) : base.valueOf field = (terms.get field).base.toInt := by
  obtain ⟨year, month, day⟩ := baseDate_eq_ok_iff.1 h
  cases field with
  | year => exact year
  | month => exact month
  | day => exact day

/-- Dates are compared by their first field that differs. -/
theorem le_iff_valueOf {a b : Date} : a ≤ b ↔ a.valueOf .year < b.valueOf .year ∨
    a.valueOf .year = b.valueOf .year ∧ (a.valueOf .month < b.valueOf .month ∨
      a.valueOf .month = b.valueOf .month ∧ a.valueOf .day ≤ b.valueOf .day) := by
  rw [Date.le_def, Date.lt_def]
  simp only [Date.valueOf]
  omega

section Base
variable {fields : Triple String} {a b : Date} {p q : Triple Term} {base base' : Date}

theorem valueOf_eq_of_not_symbolic (ha : terms fields a = .ok p) (hb : terms fields b = .ok q)
    (hp : baseDate p = .ok base) (hq : baseDate q = .ok base') {field : Field}
    (h : ¬ IsSymbolic field (fields.get field)) : base.valueOf field = base'.valueOf field := by
  have ha := terms_eq_ok_iff.1 ha field
  have hb := terms_eq_ok_iff.1 hb field
  have literal := (literal_or_symbolic ha).resolve_right h
  rw [valueOf_of_baseDate hp, valueOf_of_baseDate hq, base_eq_of_literal literal ha hb]

theorem valueOf_eq_of_symbolic (ha : terms fields a = .ok p) (hp : baseDate p = .ok base)
    {field : Field} (h : IsSymbolic field (fields.get field)) :
    base.valueOf field = a.valueOf field := by
  rw [valueOf_of_baseDate hp, base_of_symbolic h (terms_eq_ok_iff.1 ha field)]

/-- The dates to start from stand in the order of the anchors: they agree with them up to some field,
and with one another from there on. -/
theorem base_le_of_symbolicFirst (first : SymbolicFirst fields) (ha : terms fields a = .ok p)
    (hb : terms fields b = .ok q) (hp : baseDate p = .ok base) (hq : baseDate q = .ok base')
    (h : a ≤ b) : base ≤ base' := by
  have same {field : Field} (h : ¬ IsSymbolic field (fields.get field)) :=
    valueOf_eq_of_not_symbolic ha hb hp hq h
  have taken {field : Field} (h : IsSymbolic field (fields.get field)) :=
    valueOf_eq_of_symbolic ha hp h
  have taken' {field : Field} (h : IsSymbolic field (fields.get field)) :=
    valueOf_eq_of_symbolic hb hq h
  rw [le_iff_valueOf] at h ⊢
  by_cases day : IsSymbolic .day (fields.get .day)
  · have month := first .month .day (by decide) day
    have year := first .year .month (by decide) month
    rw [taken year, taken' year, taken month, taken' month, taken day, taken' day]
    exact h
  by_cases month : IsSymbolic .month (fields.get .month)
  · have year := first .year .month (by decide) month
    rw [taken year, taken' year, taken month, taken' month, same day]
    omega
  by_cases year : IsSymbolic .year (fields.get .year)
  · rw [taken year, taken' year, same month, same day]
    omega
  · rw [same year, same month, same day]
    omega

end Base

/-- **A later anchor, a later date.** The same offsets keep two dates in order, and a template
without a literal field before a symbolic one keeps the order of its anchors, as far as it names
dates from both. -/
theorem resolve_mono :
    (∀ (p q : Triple Term) (base base' x y : Date),
      (∀ field, (p.get field).offset = (q.get field).offset) →
        baseDate p = .ok base → baseDate q = .ok base' → base ≤ base' →
        compose p = .ok x → compose q = .ok y → x ≤ y) ∧
    ∀ (template : String) (fields : Triple String) (a b x y : Date),
      split template = .ok fields → SymbolicFirst fields → a ≤ b →
        resolve template a = .ok x → resolve template b = .ok y → x ≤ y := by
  constructor
  · intro p q base base' x y same hp hq h hx hy
    exact compose_mono same hp hq h hx hy
  · intro template fields a b x y hs first h ha hb
    obtain ⟨_, p, hs', hp, hx⟩ := resolve_eq_ok_iff.1 ha
    obtain rfl := Except.ok.inj (hs.symm.trans hs')
    obtain ⟨_, q, hs', hq, hy⟩ := resolve_eq_ok_iff.1 hb
    obtain rfl := Except.ok.inj (hs.symm.trans hs')
    obtain ⟨base, hbase, -⟩ := compose_eq_ok_iff.1 hx
    obtain ⟨base', hbase', -⟩ := compose_eq_ok_iff.1 hy
    have same (field : Field) : (p.get field).offset = (q.get field).offset :=
      offset_eq_of_ofText (terms_eq_ok_iff.1 hp field) (terms_eq_ok_iff.1 hq field)
    exact compose_mono same hbase hbase' (base_le_of_symbolicFirst first hp hq hbase hbase' h) hx hy

/-- Both steps clip: the 30th and the 31st of January lead to the same day of February, and last
days of months stay in order under a literal day. -/
theorem resolve_mono_clipped :
    (compose ⟨⟨.year, 2024, 0⟩, ⟨.month, 1, 1⟩, ⟨.day, 30, 0⟩⟩ = .ok ⟨2024, 2, 29, by decide⟩ ∧
      compose ⟨⟨.year, 2024, 0⟩, ⟨.month, 1, 1⟩, ⟨.day, 31, 0⟩⟩ = .ok ⟨2024, 2, 29, by decide⟩ ∧
      (⟨2024, 2, 29, by decide⟩ : Date) ≤ ⟨2024, 2, 29, by decide⟩) ∧
    split "<YEAR-1>-MONTH+1-31" = .ok ⟨"YEAR-1", "MONTH+1", "31"⟩ ∧
      SymbolicFirst ⟨"YEAR-1", "MONTH+1", "31"⟩ ∧
      resolve "<YEAR-1>-MONTH+1-31" ⟨2024, 1, 5, by decide⟩ = .ok ⟨2023, 2, 28, by decide⟩ ∧
      resolve "<YEAR-1>-MONTH+1-31" ⟨2024, 3, 1, by decide⟩ = .ok ⟨2023, 4, 30, by decide⟩ ∧
      (⟨2023, 2, 28, by decide⟩ : Date) ≤ ⟨2023, 4, 30, by decide⟩ := by
  have first : SymbolicFirst ⟨"YEAR-1", "MONTH+1", "31"⟩ := by
    intro earlier later before symbolic
    cases earlier with
    | year => exact ⟨_, rfl⟩
    | month => exact ⟨_, rfl⟩
    | day => exact absurd before (by cases later <;> decide)
  have thirtieth : compose ⟨⟨.year, 2024, 0⟩, ⟨.month, 1, 1⟩, ⟨.day, 30, 0⟩⟩ =
      .ok ⟨2024, 2, 29, by decide⟩ := by decide +kernel
  have last : compose ⟨⟨.year, 2024, 0⟩, ⟨.month, 1, 1⟩, ⟨.day, 31, 0⟩⟩ =
      .ok ⟨2024, 2, 29, by decide⟩ := by decide +kernel
  have january : resolve "<YEAR-1>-MONTH+1-31" ⟨2024, 1, 5, by decide⟩ =
      .ok ⟨2023, 2, 28, by decide⟩ := by decide +kernel
  have march : resolve "<YEAR-1>-MONTH+1-31" ⟨2024, 3, 1, by decide⟩ =
      .ok ⟨2023, 4, 30, by decide⟩ := by decide +kernel
  refine ⟨⟨thirtieth, last, ?_⟩, rfl, first, january, march, ?_⟩
  · exact resolve_mono.1 _ _ ⟨2024, 1, 30, by decide⟩ ⟨2024, 1, 31, by decide⟩ _ _
      (fun field => by cases field <;> rfl) rfl rfl (by decide) thirtieth last
  · exact resolve_mono.2 _ _ _ _ _ _ rfl first (by decide) january march

/-- A literal year before the anchor's month turns the order of two anchors round. -/
example : resolve "2024-MONTH-DAY" ⟨2023, 12, 31, by decide⟩ = .ok ⟨2024, 12, 31, by decide⟩ ∧
    resolve "2024-MONTH-DAY" ⟨2024, 1, 1, by decide⟩ = .ok ⟨2024, 1, 1, by decide⟩ := by
  decide +kernel

end Almanac.Template
