import Almanac.Proofs.Holiday.Resolution
import Almanac.Proofs.Template.Anchor
import Almanac.Proofs.Template.Attribution

/-! What the anchor can change.

Seen from two anchors, a template has the same fields, and each of them is literal, symbolic or at
fault from both. A fault of a field is therefore the same from every anchor (`readTerms_error`), and
what is read from both differs in the base values of symbolic fields alone (`SameButBases`). Those
base values decide whether the terms form a date, so two anchors may part there; but anchors that
have the values in common which a template takes from them (`SharesTaken`) lead to the same date or
to the same rejection, and a list of such templates to the same holidays (`anchor_influence`). -/
namespace Almanac.Template

/-! ### One field -/

section Field
variable {field : Field} {text : String}

theorem field_of_ofText {anchor : Date} {term : Term}
    (h : Term.ofText field anchor text = .ok term) : term.field = field := by
  obtain ⟨entry, -, h⟩ := bind_eq_ok_iff.1 h
  cases entry with
  | literal digits =>
    obtain ⟨value, -, rfl⟩ := map_eq_ok_iff.1 h
    rfl
  | symbolic capitals =>
    obtain ⟨offset, -, rfl⟩ := map_eq_ok_iff.1 h
    rfl

/-- Telling a field apart does not need the anchor. -/
theorem unread_or_literal_or_symbolic (field : Field) (text : String) :
    (∃ fault, ∀ anchor, Term.ofText field anchor text = .error fault) ∨
      IsLiteral field text ∨ IsSymbolic field text := by
  cases h : Entry.ofText field text with
  | error fault =>
    refine .inl ⟨fault, fun anchor => ?_⟩
    rw [Term.ofText, h]
    rfl
  | ok entry =>
    cases entry with
    | literal digits => exact .inr (.inl ⟨digits, h⟩)
    | symbolic capitals => exact .inr (.inr ⟨capitals, h⟩)

/-- A fault of a field is the same from every anchor. -/
theorem ofText_error {a : Date} {fault : Fault} (h : Term.ofText field a text = .error fault)
    (b : Date) : Term.ofText field b text = .error fault := by
  rcases unread_or_literal_or_symbolic field text with ⟨found, unread⟩ | literal | symbolic
  · rw [unread] at h ⊢
    exact h
  · rw [← ofText_literal literal a b]
    exact h
  · rw [ofText_symbolic symbolic a b, h]
    rfl

theorem ofText_ok {a : Date} {term : Term} (h : Term.ofText field a text = .ok term) (b : Date) :
    ∃ term, Term.ofText field b text = .ok term := by
  refine Classical.byContradiction fun none => ?_
  obtain ⟨fault, unread⟩ := exists_error_iff.2 none
  rw [ofText_error unread a] at h
  cases h

/-- A field is the same from anchors that have its value in common, if it is symbolic at all. -/
theorem ofText_eq {a b : Date}
    (shared : IsSymbolic field text → a.valueOf field = b.valueOf field) :
    Term.ofText field a text = Term.ofText field b text := by
  rcases unread_or_literal_or_symbolic field text with ⟨found, unread⟩ | literal | symbolic
  · rw [unread, unread]
  · exact ofText_literal literal a b
  · rw [ofText_symbolic symbolic a b, ← shared symbolic]
    exact ofText_symbolic symbolic a a

end Field

/-! ### Two readings -/

/-- What two readings of the same fields from two anchors share: everything but the base values of
the symbolic fields, which are the anchors' own. -/
structure SameButBases (fields : Triple String) (a b : Date) (p q : Triple Term) : Prop where
  kinds : ∀ field, (p.get field).field = field ∧ (q.get field).field = field
  offsets : ∀ field, (p.get field).offset = (q.get field).offset
  told : ∀ field, IsLiteral field (fields.get field) ∨ IsSymbolic field (fields.get field)
  literal : ∀ field, IsLiteral field (fields.get field) → (p.get field).base = (q.get field).base
  symbolic : ∀ field, IsSymbolic field (fields.get field) →
    (p.get field).base.toInt = a.valueOf field ∧ (q.get field).base.toInt = b.valueOf field

theorem sameButBases_of_terms {fields : Triple String} {a b : Date} {p q : Triple Term}
    (hp : terms fields a = .ok p) (hq : terms fields b = .ok q) : SameButBases fields a b p q where
  kinds field :=
    ⟨field_of_ofText (terms_eq_ok_iff.1 hp field), field_of_ofText (terms_eq_ok_iff.1 hq field)⟩
  offsets field := offset_eq_of_ofText (terms_eq_ok_iff.1 hp field) (terms_eq_ok_iff.1 hq field)
  told field := literal_or_symbolic (terms_eq_ok_iff.1 hp field)
  literal field literal :=
    base_eq_of_literal literal (terms_eq_ok_iff.1 hp field) (terms_eq_ok_iff.1 hq field)
  symbolic field symbolic :=
    ⟨base_of_symbolic symbolic (terms_eq_ok_iff.1 hp field),
      base_of_symbolic symbolic (terms_eq_ok_iff.1 hq field)⟩

theorem FirstFault.of_anchor {fields : Triple String} {a : Date} {field : Field} {fault : Fault}
    (h : FirstFault fields a field fault) (b : Date) : FirstFault fields b field fault where
  earlier before lt := by
    obtain ⟨term, read⟩ := h.earlier before lt
    exact ofText_ok read b
  found := ofText_error h.found b

/-- A template that cannot be read cannot be read from any anchor, for the same fault. -/
theorem readTerms_error {template : String} {a : Date} {fault : Fault}
    (h : readTerms template a = .error fault) (b : Date) :
    readTerms template b = .error fault := by
  rw [readTerms_eq] at h ⊢
  rcases bind_eq_error_iff.1 h with unsplit | ⟨fields, hs, unread⟩
  · exact bind_eq_error_iff.2 (.inl unsplit)
  · obtain ⟨field, first⟩ := terms_eq_error_iff.1 unread
    exact bind_eq_error_iff.2 (.inr ⟨fields, hs, terms_eq_error_iff.2 ⟨field, first.of_anchor b⟩⟩)

/-- A template is at fault from both anchors alike, or is read from both with the same fields. -/
theorem readTerms_error_or_ok (template : String) (a b : Date) :
    (∃ fault, readTerms template a = .error fault ∧ readTerms template b = .error fault) ∨
      ∃ fields p q, split template = .ok fields ∧ readTerms template a = .ok p ∧
        readTerms template b = .ok q ∧ SameButBases fields a b p q := by
  cases ha : readTerms template a with
  | error fault => exact .inl ⟨fault, rfl, readTerms_error ha b⟩
  | ok p =>
    cases hb : readTerms template b with
    | error fault =>
      rw [readTerms_error hb a] at ha
      cases ha
    | ok q =>
      obtain ⟨fields, hs, hp⟩ := bind_eq_ok_iff.1 (readTerms_eq template a ▸ ha)
      obtain ⟨_, hs', hq⟩ := bind_eq_ok_iff.1 (readTerms_eq template b ▸ hb)
      obtain rfl := Except.ok.inj (hs.symm.trans hs')
      exact .inr ⟨fields, p, q, hs, rfl, rfl, sameButBases_of_terms hp hq⟩

/-- Two anchors part at the date if at all: where one leads to a date and the other does not, the
terms form none, or their offsets leave the calendar. -/
theorem fault_of_resolve {template : String} {a b date : Date} {rejection : Rejection}
    (ha : resolve template a = .ok date) (hb : resolve template b = .error rejection) :
    (∃ year month day, rejection.fault = .noSuchDate year month day) ∨
      rejection.fault = .beyondCalendar := by
  obtain ⟨p, read, -⟩ := resolve_eq_ok_iff_readTerms.1 ha
  rw [resolve_eq] at hb
  obtain ⟨fault, unresolved, rfl⟩ := mapError_eq_error_iff.1 hb
  rcases bind_eq_error_iff.1 unresolved with unread | ⟨q, -, uncomposed⟩
  · rw [readTerms_error unread a] at read
    cases read
  · rcases compose_fault uncomposed with base | steps
    · exact .inl ⟨_, _, _, base⟩
    · exact .inr steps

/-! ### Shared values -/

/-- Whether a template takes the value of a field from the anchor. -/
def Takes (template : String) (field : Field) : Prop :=
  ∃ fields, split template = .ok fields ∧ IsSymbolic field (fields.get field)

/-- Whether two anchors have the values in common that a template takes from them. -/
def SharesTaken (template : String) (a b : Date) : Prop :=
  ∀ field, Takes template field → a.valueOf field = b.valueOf field

instance (field : Field) (text : String) : Decidable (IsSymbolic field text) :=
  match h : Entry.ofText field text with
  | .ok (.symbolic capitals) => isTrue ⟨capitals, h⟩
  | .ok (.literal _) => isFalse fun ⟨_, symbolic⟩ => by cases h.symm.trans symbolic
  | .error _ => isFalse fun ⟨_, symbolic⟩ => by cases h.symm.trans symbolic

instance (template : String) (field : Field) : Decidable (Takes template field) :=
  match h : split template with
  | .ok fields => decidable_of_iff (IsSymbolic field (fields.get field))
    ⟨fun symbolic => ⟨fields, h, symbolic⟩, fun ⟨_, hs, symbolic⟩ => by
      obtain rfl := Except.ok.inj (h.symm.trans hs)
      exact symbolic⟩
  | .error _ => isFalse fun ⟨_, hs, _⟩ => by cases h.symm.trans hs

instance (template : String) (a b : Date) : Decidable (SharesTaken template a b) :=
  decidable_of_iff (∀ field ∈ Field.all, Takes template field → a.valueOf field = b.valueOf field)
    ⟨fun shared field => shared field field.mem_all, fun shared field _ => shared field⟩

section Shared
variable {template : String} {a b : Date}

theorem readTerms_congr (shared : SharesTaken template a b) :
    readTerms template a = readTerms template b := by
  cases hs : split template with
  | error fault =>
    rw [readTerms_eq, readTerms_eq, hs]
    rfl
  | ok fields =>
    have same (field : Field) : Term.ofText field a (fields.get field) =
        Term.ofText field b (fields.get field) :=
      ofText_eq fun symbolic => shared field ⟨fields, hs, symbolic⟩
    have year : Term.ofText .year a fields.year = Term.ofText .year b fields.year := same .year
    have month : Term.ofText .month a fields.month = Term.ofText .month b fields.month :=
      same .month
    have day : Term.ofText .day a fields.day = Term.ofText .day b fields.day := same .day
    rw [readTerms_eq, readTerms_eq, hs]
    show terms fields a = terms fields b
    rw [terms_eq, terms_eq, year, month, day]

theorem resolve_congr (shared : SharesTaken template a b) :
    resolve template a = resolve template b := by
  rw [resolve_eq, resolve_eq, readTerms_congr shared]

end Shared

/-- **What the anchor can change.** From two anchors a template is at fault alike, or is read with
the same fields, differing in nothing but the base values of the symbolic ones, which are the
anchors' own values. Where one anchor leads to a date and the other does not, the fault is one of
composing. A template without a symbolic field leads to the same from all anchors, any template to
the same from anchors with the values it takes in common, and a list of such templates to the same
holidays. -/
theorem anchor_influence :
    (∀ template a b,
      (∃ rejection, parse template a = .error rejection ∧ parse template b = .error rejection) ∨
        ∃ fields p q, split template = .ok fields ∧ parse template a = .ok p ∧
          parse template b = .ok q ∧ SameButBases fields a b p q) ∧
    (∀ template a b date rejection, resolve template a = .ok date →
      resolve template b = .error rejection →
        (∃ year month day, rejection.fault = .noSuchDate year month day) ∨
          rejection.fault = .beyondCalendar) ∧
    (∀ template, (∀ field, ¬ Takes template field) →
      ∀ a b, resolve template a = resolve template b) ∧
    (∀ template a b, SharesTaken template a b → resolve template a = resolve template b) ∧
    ∀ templates a b, (∀ template ∈ templates, SharesTaken template a b) →
      Holidays.resolve templates a = Holidays.resolve templates b := by
  refine ⟨?_, ?_, ?_, ?_, ?_⟩
  · intro template a b
    rcases readTerms_error_or_ok template a b with
      ⟨fault, ha, hb⟩ | ⟨fields, p, q, hs, ha, hb, same⟩
    · exact .inl ⟨⟨template, fault⟩, mapError_eq_error_iff.2 ⟨fault, ha, rfl⟩,
        mapError_eq_error_iff.2 ⟨fault, hb, rfl⟩⟩
    · exact .inr ⟨fields, p, q, hs, parse_eq_ok_iff.2 ha, parse_eq_ok_iff.2 hb, same⟩
  · intro template a b date rejection ha hb
    exact fault_of_resolve ha hb
  · intro template none a b
    exact resolve_congr fun field takes => absurd takes (none field)
  · intro template a b shared
    exact resolve_congr shared
  · intro templates a b shared
    exact Holidays.resolve_congr fun template h => resolve_congr (shared template h)

/-- A leap day exists from one year and not from the next. A template of numbers does not look at
the anchor, the first of a month looks at year and month, and a list fails alike from anchors that
its templates cannot tell apart. -/
theorem anchor_influence_leap_day :
    (resolve "YEAR-02-29" ⟨2024, 6, 15, by decide⟩ = .ok ⟨2024, 2, 29, by decide⟩ ∧
      resolve "YEAR-02-29" ⟨2023, 6, 15, by decide⟩ =
        .error ⟨"YEAR-02-29", .noSuchDate 2023 2 29⟩ ∧
      ((∃ year month day, Fault.noSuchDate 2023 2 29 = .noSuchDate year month day) ∨
        Fault.noSuchDate 2023 2 29 = .beyondCalendar)) ∧
    ((∀ field, ¬ Takes "2023-02-29" field) ∧
      resolve "2023-02-29" ⟨2024, 6, 15, by decide⟩ = resolve "2023-02-29" ⟨-7, 1, 1, by decide⟩) ∧
    (SharesTaken "Year-<month - 1>-01" ⟨2024, 6, 15, by decide⟩ ⟨2024, 6, 30, by decide⟩ ∧
      resolve "Year-<month - 1>-01" ⟨2024, 6, 15, by decide⟩ =
        resolve "Year-<month - 1>-01" ⟨2024, 6, 30, by decide⟩) ∧
    ((∀ template ∈ ["YEAR-12-25", "2024-<MONTH-1-01", "2024-13-DAY"],
        SharesTaken template ⟨2024, 6, 15, by decide⟩ ⟨2024, 7, 15, by decide⟩) ∧
      Holidays.resolve ["YEAR-12-25", "2024-<MONTH-1-01", "2024-13-DAY"] ⟨2024, 6, 15, by decide⟩ =
        Holidays.resolve ["YEAR-12-25", "2024-<MONTH-1-01", "2024-13-DAY"]
          ⟨2024, 7, 15, by decide⟩) := by
  obtain ⟨-, parts, literal, shared, list⟩ := anchor_influence
  have leap : resolve "YEAR-02-29" ⟨2024, 6, 15, by decide⟩ = .ok ⟨2024, 2, 29, by decide⟩ := by
    decide +kernel
  have common : resolve "YEAR-02-29" ⟨2023, 6, 15, by decide⟩ =
      .error ⟨"YEAR-02-29", .noSuchDate 2023 2 29⟩ := by decide +kernel
  have none (field : Field) : ¬ Takes "2023-02-29" field := by
    cases field <;> decide +kernel
  have first : SharesTaken "Year-<month - 1>-01" ⟨2024, 6, 15, by decide⟩
      ⟨2024, 6, 30, by decide⟩ := by decide +kernel
  have all : ∀ template ∈ ["YEAR-12-25", "2024-<MONTH-1-01", "2024-13-DAY"],
      SharesTaken template ⟨2024, 6, 15, by decide⟩ ⟨2024, 7, 15, by decide⟩ := by decide +kernel
  exact ⟨⟨leap, common, parts _ _ _ _ _ leap common⟩, ⟨none, literal _ none _ _⟩,
    ⟨first, shared _ _ _ first⟩, all, list _ _ _ all⟩

end Almanac.Template
