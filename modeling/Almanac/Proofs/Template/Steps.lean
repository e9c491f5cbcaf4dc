import Almanac.Template.Resolve

/-! What is said while a template is resolved.

A template that names a date says seven steps, and the last of them is that it does
(`steps_of_resolve`). A template that names none says a beginning of the same script, and stops
before that one (`steps_of_rejected`). -/
namespace Almanac.Template.Trace
variable {template : String} {anchor date : Date}

/-! ### Templates that name a date -/

theorem steps_split {fields : Triple String} (h : Template.split template = .ok fields) :
    (split template).steps = [.cut fields.toList] := by
  obtain ⟨found, whole, h⟩ := bind_eq_ok_iff.1 (split_eq template ▸ h)
  rw [split, Traced.steps_bind_of_ok (x := .silent (pieces template.toList)) whole]
  cases three : Triple.ofList? found with
  | none =>
    rw [three] at h
    cases h
  | some texts =>
    rw [three] at h
    obtain rfl := Except.ok.inj h
    obtain rfl := Triple.ofList?_eq_some_iff.1 three
    rfl

theorem steps_term {field : Field} {text : String} {found : Term}
    (h : Term.ofText field anchor text = .ok found) :
    (term field anchor text).steps = [.read found] := by
  rw [term, h]
  rfl

theorem steps_terms {fields : Triple String} {found : Triple Term}
    (h : Template.terms fields anchor = .ok found) :
    (terms fields anchor).steps = [.read found.year, .read found.month, .read found.day] := by
  rw [terms_eq] at h
  obtain ⟨year, yearRead, h⟩ := bind_eq_ok_iff.1 h
  obtain ⟨month, monthRead, h⟩ := bind_eq_ok_iff.1 h
  obtain ⟨day, dayRead, h⟩ := bind_eq_ok_iff.1 h
  obtain rfl := Except.ok.inj h
  rw [terms, Traced.steps_bind_of_ok ((result_term ..).trans yearRead),
    Traced.steps_bind_of_ok ((result_term ..).trans monthRead),
    Traced.steps_bind_of_ok ((result_term ..).trans dayRead), steps_term yearRead,
    steps_term monthRead, steps_term dayRead]
  rfl

theorem steps_compose {terms : Triple Term} {base : Date} (formed : baseDate terms = .ok base)
    (reached : applyOffsets base terms = some date) :
    (compose terms).steps = [.composed base, .moved date] := by
  rw [compose, Traced.steps_bind_of_ok (x := .silent (baseDate terms)) formed,
    Traced.steps_bind_of_ok (x := .say _) rfl, reached]
  rfl

/-- The steps of a template that names a date, each with what it has led to. -/
theorem steps_of_resolve (h : Template.resolve template anchor = .ok date) :
    ∃ fields found base, Template.split template = .ok fields ∧
      Template.terms fields anchor = .ok found ∧ baseDate found = .ok base ∧
      applyOffsets base found = some date ∧
      (resolve template anchor).steps = [.cut fields.toList, .read found.year, .read found.month,
        .read found.day, .composed base, .moved date, .named template anchor date] := by
  obtain ⟨fields, found, cutting, reading, composing⟩ := resolve_eq_ok_iff.1 h
  obtain ⟨base, formed, reached⟩ := compose_eq_ok_iff.1 composing
  have read : (readTerms template anchor).result = .ok found :=
    (readTerms_eq template anchor).trans (bind_eq_ok_iff.2 ⟨fields, cutting, reading⟩)
  have composed : ((readTerms template anchor >>= compose).mapError
      (fun fault => Rejection.mk template fault)).result = .ok date := by
    rw [Traced.result_mapError, Traced.result_bind, read]
    exact mapError_eq_ok_iff.2 composing
  refine ⟨fields, found, base, cutting, reading, formed, reached, ?_⟩
  rw [resolve, Traced.steps_bind_of_ok composed, Traced.steps_mapError,
    Traced.steps_bind_of_ok read, readTerms, Traced.steps_bind_of_ok cutting, steps_split cutting,
    steps_terms reading, steps_compose formed reached]
  rfl

/-! ### Scripts -/

/-- The messages of a template that names a date, up to that it does. -/
def script : List String :=
  ["split template into segments", "resolved field", "resolved field", "resolved field",
    "composed base date", "applied offsets"]

theorem follows_split (template : String) :
    (split template).Follows Step.message ["split template into segments"] := by
  refine .bind (.silent _) fun found => .bind (.say _) fun _ => ?_
  cases Triple.ofList? found with
  | some texts => exact .pure _
  | none => exact .error _

theorem follows_term (field : Field) (anchor : Date) (text : String) :
    (term field anchor text).Follows Step.message ["resolved field"] :=
  .bind (.silent _) fun found => .bind (.say _) fun _ => .pure found

theorem follows_terms (fields : Triple String) (anchor : Date) :
    (terms fields anchor).Follows Step.message
      ["resolved field", "resolved field", "resolved field"] :=
  .bind (follows_term ..) fun _ => .bind (follows_term ..) fun _ =>
    .bind (follows_term ..) fun _ => .pure _

theorem follows_compose (terms : Triple Term) :
    (compose terms).Follows Step.message ["composed base date", "applied offsets"] := by
  refine .bind (.silent _) fun base => .bind (.say _) fun _ => ?_
  cases applyOffsets base terms with
  | some date => exact .bind (.say _) fun _ => .pure date
  | none => exact .error _

/-- A template that names no date says no more than those that do, and not that it does. -/
theorem steps_of_rejected {rejection : Rejection}
    (h : Template.resolve template anchor = .error rejection) :
    (resolve template anchor).steps.map Step.message <+: script := by
  have follows : (readTerms template anchor >>= compose).Follows Step.message script :=
    .bind (.bind (follows_split _) fun _ => follows_terms ..) fun _ => follows_compose _
  have failed : ((readTerms template anchor >>= compose).mapError
      (fun fault => Rejection.mk template fault)).result = .error rejection := by
    rw [Traced.result_mapError, Traced.result_bind]
    exact (resolve_eq template anchor).symm.trans h
  rw [resolve, Traced.steps_bind_of_error failed, Traced.steps_mapError]
  exact follows.begins

end Almanac.Template.Trace
