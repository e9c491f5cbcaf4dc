import Almanac.Proofs.Template.Language
import Almanac.Template.Resolve

/-! Where a fault lies.

A template is split, its fields are read one after the other, and their terms are composed. Each of
these stages keeps to faults of its own: those of reading a field name that field and no other, and
those of splitting and composing name none (`FaultsIn`). So the field that a rejection names, or
that it names none, tells how far the work came, and `resolve_fault` says what it found there. -/
namespace Almanac.Template

/-! ### The faults of a computation -/

section FaultsIn
variable {α β : Type} {place : Option Field}

/-- Whether the faults that a computation can end in all lie in one place: in one field, or in none. -/
def FaultsIn (place : Option Field) (x : Except Fault α) : Prop :=
  ∀ fault, x = .error fault → fault.field? = place

theorem faultsIn_ok (a : α) : FaultsIn place (.ok a) :=
  nofun

theorem faultsIn_error {fault : Fault} (h : fault.field? = place) :
    FaultsIn place (.error fault : Except Fault α) := by
  intro fault' eq
  obtain rfl := Except.error.inj eq
  exact h

theorem FaultsIn.bind {x : Except Fault α} {f : α → Except Fault β} (hx : FaultsIn place x)
    (hf : ∀ a, FaultsIn place (f a)) : FaultsIn place (x >>= f) := by
  intro fault h
  rcases bind_eq_error_iff.1 h with first | ⟨a, -, second⟩
  · exact hx fault first
  · exact hf a fault second

theorem FaultsIn.map {x : Except Fault α} (hx : FaultsIn place x) (f : α → β) :
    FaultsIn place (x.map f) :=
  fun fault h => hx fault (map_eq_error_iff.1 h)

end FaultsIn

/-! ### Reading a field -/

theorem faultsIn_readNumber (field : Field) (cs : List Char) :
    FaultsIn (some field) (readNumber field cs) := by
  unfold readNumber
  split
  · split
    · exact faultsIn_ok _
    · exact faultsIn_error rfl
  · exact faultsIn_error rfl

theorem faultsIn_readLiteral (field : Field) (cs : List Char) :
    FaultsIn (some field) (readLiteral field cs) := by
  refine (faultsIn_readNumber field cs).bind fun value => ?_
  split
  · exact faultsIn_error rfl
  · split
    · exact faultsIn_error rfl
    · exact faultsIn_ok value

theorem faultsIn_readKeyword (field : Field) (cs : List Char) :
    FaultsIn (some field) (readKeyword field cs) := by
  unfold readKeyword
  dsimp only
  split
  · exact faultsIn_ok ()
  · exact faultsIn_error rfl

theorem faultsIn_readOffset (field : Field) (cs : List Char) :
    FaultsIn (some field) (readOffset field cs) := by
  unfold readOffset
  split
  · exact (faultsIn_readKeyword field cs).map _
  · split
    · exact faultsIn_error rfl
    · split
      · exact faultsIn_error rfl
      · refine (faultsIn_readKeyword field _).bind fun _ => ?_
        exact (faultsIn_readNumber field _).bind fun _ => faultsIn_ok _

theorem faultsIn_entryOfText (field : Field) (text : String) :
    FaultsIn (some field) (Entry.ofText field text) := by
  unfold Entry.ofText
  dsimp only
  split
  · exact faultsIn_error rfl
  · split
    · exact faultsIn_ok _
    · split
      · exact faultsIn_ok _
      · exact faultsIn_error rfl

/-- A fault found in reading a field lies in that field. -/
theorem faultsIn_termOfText (field : Field) (anchor : Date) (text : String) :
    FaultsIn (some field) (Term.ofText field anchor text) := by
  refine (faultsIn_entryOfText field text).bind fun entry => ?_
  cases entry with
  | literal digits => exact (faultsIn_readLiteral field _).map _
  | symbolic capitals => exact (faultsIn_readOffset field _).map _

/-! ### Splitting and composing -/

theorem field?_misplaced (region : Region) (c : Char) : (misplaced region c).field? = none := by
  unfold misplaced
  split <;> rfl

theorem faultsIn_cut (region : Region) (cs : List Char) : FaultsIn none (cut region cs) := by
  induction cs generalizing region with
  | nil => exact faultsIn_ok _
  | cons c cs ih =>
    rw [cut_cons]
    split
    · exact (ih .before).map _
    · split
      · exact faultsIn_error (field?_misplaced region c)
      · next next _ =>
        split
        · exact ih next
        · exact (ih next).map _

/-- A fault found in splitting a template lies in no field. -/
theorem faultsIn_split (template : String) : FaultsIn none (split template) := by
  rw [split_eq]
  refine FaultsIn.bind ((faultsIn_cut .before _).map _) fun found => ?_
  split
  · exact faultsIn_ok _
  · exact faultsIn_error rfl

/-- The faults of composing: the bases are no date, or a step leaves the calendar. -/
theorem compose_fault {terms : Triple Term} {fault : Fault} (h : compose terms = .error fault) :
    fault = .noSuchDate terms.year.base.toInt terms.month.base.toInt terms.day.base.toInt ∨
      fault = .beyondCalendar := by
  rw [compose_eq] at h
  rcases bind_eq_error_iff.1 h with base | ⟨base, -, steps⟩
  · unfold baseDate at base
    split at base
    · nomatch base
    · exact .inl (Except.error.inj base).symm
  · split at steps
    · nomatch steps
    · exact .inr (Except.error.inj steps).symm

theorem faultsIn_compose (terms : Triple Term) : FaultsIn none (compose terms) := by
  intro fault h
  rcases compose_fault h with rfl | rfl
  · rfl
  · rfl

/-! ### The first fault -/

/-- A field cannot be read, and every field before it can. -/
structure FirstFault (fields : Triple String) (anchor : Date) (field : Field) (fault : Fault) :
    Prop where
  earlier : ∀ before < field, ∃ term, Term.ofText before anchor (fields.get before) = .ok term
  found : Term.ofText field anchor (fields.get field) = .error fault

theorem FirstFault.field?_eq {fields : Triple String} {anchor : Date} {field : Field}
    {fault : Fault} (h : FirstFault fields anchor field fault) : fault.field? = some field :=
  faultsIn_termOfText field anchor _ fault h.found

/-- Fields are read in the order of the template. -/
theorem terms_eq_error_iff {fields : Triple String} {anchor : Date} {fault : Fault} :
    terms fields anchor = .error fault ↔ ∃ field, FirstFault fields anchor field fault := by
  simp only [terms_eq, bind_eq_error_iff]
  constructor
  · intro h
    rcases h with year | ⟨y, hy, month | ⟨m, hm, day | ⟨d, -, none⟩⟩⟩
    · exact ⟨.year, fun before h => absurd h (Nat.not_lt_zero _), year⟩
    · refine ⟨.month, fun before h => ?_, month⟩
      cases before with
      | year => exact ⟨y, hy⟩
      | month => exact absurd h (by decide)
      | day => exact absurd h (by decide)
    · refine ⟨.day, fun before h => ?_, day⟩
      cases before with
      | year => exact ⟨y, hy⟩
      | month => exact ⟨m, hm⟩
      | day => exact absurd h (by decide)
    · cases none
  · intro h
    obtain ⟨field, earlier, found⟩ := h
    cases field with
    | year => exact .inl found
    | month =>
      obtain ⟨y, hy⟩ := earlier .year (by decide)
      exact .inr ⟨y, hy, .inl found⟩
    | day =>
      obtain ⟨y, hy⟩ := earlier .year (by decide)
      obtain ⟨m, hm⟩ := earlier .month (by decide)
      exact .inr ⟨y, hy, .inr ⟨m, hm, .inl found⟩⟩

/-- How far the work on a rejected template came: it was not split, or a field could not be read,
or its terms could not be composed. -/
theorem resolve_eq_error_iff {template : String} {anchor : Date} {rejection : Rejection} :
    resolve template anchor = .error rejection ↔ rejection.template = template ∧
      (split template = .error rejection.fault ∨ ∃ fields, split template = .ok fields ∧
        ((∃ field, FirstFault fields anchor field rejection.fault) ∨
          ∃ found, terms fields anchor = .ok found ∧ compose found = .error rejection.fault)) := by
  obtain ⟨written, fault⟩ := rejection
  have outer : resolve template anchor = .error ⟨written, fault⟩ ↔
      written = template ∧ (readTerms template anchor >>= compose) = .error fault := by
    rw [resolve_eq, mapError_eq_error_iff]
    simp only [Rejection.mk.injEq]
    constructor
    · intro h
      obtain ⟨fault', h, rfl, rfl⟩ := h
      exact ⟨rfl, h⟩
    · intro h
      obtain ⟨rfl, h⟩ := h
      exact ⟨fault, h, rfl, rfl⟩
  rw [outer]
  refine and_congr_right fun _ => ?_
  simp only [readTerms_eq, bind_eq_error_iff, bind_eq_ok_iff, terms_eq_error_iff]
  constructor
  · intro h
    rcases h with (unsplit | ⟨fields, hs, field⟩) | ⟨found, ⟨fields, hs, ht⟩, date⟩
    · exact .inl unsplit
    · exact .inr ⟨fields, hs, .inl field⟩
    · exact .inr ⟨fields, hs, .inr ⟨found, ht, date⟩⟩
  · intro h
    rcases h with unsplit | ⟨fields, hs, field | ⟨found, ht, date⟩⟩
    · exact .inl (.inl unsplit)
    · exact .inl (.inr ⟨fields, hs, field⟩)
    · exact .inr ⟨found, ⟨fields, hs, ht⟩, date⟩

/-- A rejection names the first field that cannot be read. -/
theorem field?_eq_some_iff {template : String} {anchor : Date} {rejection : Rejection}
    (h : resolve template anchor = .error rejection) {field : Field} :
    rejection.field? = some field ↔ ∃ fields, split template = .ok fields ∧
      FirstFault fields anchor field rejection.fault := by
  constructor
  · intro named
    have named : rejection.fault.field? = some field := named
    rcases (resolve_eq_error_iff.1 h).2 with
      unsplit | ⟨fields, hs, ⟨first, fault⟩ | ⟨found, -, date⟩⟩
    · nomatch (faultsIn_split template _ unsplit).symm.trans named
    · obtain rfl := Option.some.inj (fault.field?_eq.symm.trans named)
      exact ⟨fields, hs, fault⟩
    · nomatch (faultsIn_compose found _ date).symm.trans named
  · intro h
    obtain ⟨_, -, fault⟩ := h
    exact fault.field?_eq

/-- A rejection that names no field is from before the fields were read, or from after. -/
theorem field?_eq_none_iff {template : String} {anchor : Date} {rejection : Rejection}
    (h : resolve template anchor = .error rejection) :
    rejection.field? = none ↔ split template = .error rejection.fault ∨
      ∃ fields found, split template = .ok fields ∧ terms fields anchor = .ok found ∧
        compose found = .error rejection.fault := by
  constructor
  · intro unnamed
    have unnamed : rejection.fault.field? = none := unnamed
    rcases (resolve_eq_error_iff.1 h).2 with
      unsplit | ⟨fields, hs, ⟨first, fault⟩ | ⟨found, ht, date⟩⟩
    · exact .inl unsplit
    · nomatch fault.field?_eq.symm.trans unnamed
    · exact .inr ⟨fields, found, hs, ht, date⟩
  · intro h
    rcases h with unsplit | ⟨_, found, -, -, date⟩
    · exact faultsIn_split template _ unsplit
    · exact faultsIn_compose found _ date

/-- **Where a fault lies.** A rejection keeps the template. It names a field exactly when the
template is split and a field cannot be read, and then the first such field, with the fault that
reading it ends in. It names none exactly when the template is not split, with the fault of
splitting it, or all fields are read and their terms are no date of the calendar, with one of the
two faults of that. -/
theorem resolve_fault {template : String} {anchor : Date} {rejection : Rejection}
    (h : resolve template anchor = .error rejection) :
    rejection.template = template ∧
    ((∃ field, rejection.field? = some field) ↔ ∃ fields, split template = .ok fields ∧
      ∃ field fault, Term.ofText field anchor (fields.get field) = .error fault) ∧
    (∀ field, rejection.field? = some field ↔ ∃ fields, split template = .ok fields ∧
      FirstFault fields anchor field rejection.fault) ∧
    (rejection.field? = none ↔ split template = .error rejection.fault ∨
      ∃ fields found, split template = .ok fields ∧
        (∀ field, Term.ofText field anchor (fields.get field) = .ok (found.get field)) ∧
        compose found = .error rejection.fault ∧
        (rejection.fault =
            .noSuchDate found.year.base.toInt found.month.base.toInt found.day.base.toInt ∨
          rejection.fault = .beyondCalendar)) := by
  refine ⟨(resolve_eq_error_iff.1 h).1, ⟨?_, ?_⟩, fun field => field?_eq_some_iff h, ?_⟩
  · intro named
    obtain ⟨field, named⟩ := named
    obtain ⟨fields, hs, first⟩ := (field?_eq_some_iff h).1 named
    exact ⟨fields, hs, field, _, first.found⟩
  · intro unread
    obtain ⟨fields, hs, field, fault, unread⟩ := unread
    refine Option.ne_none_iff_exists'.1 fun unnamed => ?_
    rcases (field?_eq_none_iff h).1 unnamed with unsplit | ⟨fields', found, hs', ht, -⟩
    · nomatch hs.symm.trans unsplit
    · obtain rfl := Except.ok.inj (hs.symm.trans hs')
      nomatch unread.symm.trans (terms_eq_ok_iff.1 ht field)
  · rw [field?_eq_none_iff h]
    refine or_congr_right (exists₂_congr fun fields found => and_congr_right fun _ => ?_)
    rw [terms_eq_ok_iff]
    exact and_congr_right fun _ => ⟨fun date => ⟨date, compose_fault date⟩, And.left⟩

/-- The month is reported although the day is wrong as well. -/
theorem resolve_fault_month :
    resolve "YEAR-13-99" ⟨2024, 1, 1, by decide⟩ =
        .error ⟨"YEAR-13-99", .outOfRange .month 13 12⟩ ∧
      ∃ fields, split "YEAR-13-99" = .ok fields ∧
        FirstFault fields ⟨2024, 1, 1, by decide⟩ .month (.outOfRange .month 13 12) := by
  have read : resolve "YEAR-13-99" ⟨2024, 1, 1, by decide⟩ =
      .error ⟨"YEAR-13-99", .outOfRange .month 13 12⟩ := rfl
  exact ⟨read, ((resolve_fault read).2.2.1 .month).1 rfl⟩

end Almanac.Template
