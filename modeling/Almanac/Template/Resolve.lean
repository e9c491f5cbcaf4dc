import Almanac.Template.Compose
import Almanac.Template.Piece

/-! From a template to a date.

A template such as `<YEAR+1>-01-01` is cut into its fields, each field is read as a term, and the
terms are composed. The first fault ends the work: faults of the brackets and of the number of
fields come before those of any field, those of a field before those of a later one, and those of
the date last. The clock is never read; the anchor is the only date that a template can refer to.

Every function is the result of its traced form, which says the steps of the work as well. -/
namespace Almanac.Template

/-! ### With the steps -/

namespace Trace

/-- What a field stands for. -/
def term (field : Field) (anchor : Date) (text : String) : Traced Step Fault Term := do
  let found ← .silent (Term.ofText field anchor text)
  .say (.read found)
  pure found

/-- What the three fields stand for, or the fault of the first field that has one. -/
def terms (fields : Triple String) (anchor : Date) : Traced Step Fault (Triple Term) := do
  let year ← term .year anchor fields.year
  let month ← term .month anchor fields.month
  let day ← term .day anchor fields.day
  pure ⟨year, month, day⟩

/-- The terms of a template, or its first fault. -/
def readTerms (template : String) (anchor : Date) : Traced Step Fault (Triple Term) := do
  terms (← split template) anchor

/-- The date that a template names, seen from the anchor. -/
def resolve (template : String) (anchor : Date) : Traced Step Rejection Date := do
  let date ← (readTerms template anchor >>= compose).mapError (⟨template, ·⟩)
  .say (.named template anchor date)
  pure date

@[simp] theorem result_term (field : Field) (anchor : Date) (text : String) :
    (term field anchor text).result = Term.ofText field anchor text := by
  rw [term, Traced.result_bind, Traced.result_silent]
  cases Term.ofText field anchor text with
  | error fault => rfl
  | ok found => rfl

end Trace

/-! ### Results -/

def terms (fields : Triple String) (anchor : Date) : Except Fault (Triple Term) :=
  (Trace.terms fields anchor).result

def readTerms (template : String) (anchor : Date) : Except Fault (Triple Term) :=
  (Trace.readTerms template anchor).result

/-- The terms of a template. -/
def parse (template : String) (anchor : Date) : Except Rejection (Triple Term) :=
  (readTerms template anchor).mapError (⟨template, ·⟩)

def resolve (template : String) (anchor : Date) : Except Rejection Date :=
  (Trace.resolve template anchor).result

theorem terms_eq (fields : Triple String) (anchor : Date) : terms fields anchor =
    Term.ofText .year anchor fields.year >>= fun year =>
      Term.ofText .month anchor fields.month >>= fun month =>
        Term.ofText .day anchor fields.day >>= fun day => .ok ⟨year, month, day⟩ := by
  simp only [terms, Trace.terms, Traced.result_bind, Trace.result_term, Traced.result_pure]

theorem readTerms_eq (template : String) (anchor : Date) :
    readTerms template anchor = split template >>= (terms · anchor) :=
  Traced.result_bind

theorem resolve_eq (template : String) (anchor : Date) :
    resolve template anchor = (readTerms template anchor >>= compose).mapError (⟨template, ·⟩) := by
  have composed : (Trace.readTerms template anchor >>= Trace.compose).result =
      readTerms template anchor >>= compose := Traced.result_bind
  rw [resolve, Trace.resolve, Traced.result_bind, Traced.result_mapError, composed]
  cases readTerms template anchor >>= compose with
  | error fault => rfl
  | ok date => rfl

theorem parse_eq_ok_iff {template : String} {anchor : Date} {found : Triple Term} :
    parse template anchor = .ok found ↔ readTerms template anchor = .ok found :=
  mapError_eq_ok_iff

theorem resolve_eq_ok_iff_readTerms {template : String} {anchor date : Date} :
    resolve template anchor = .ok date ↔
      ∃ found, readTerms template anchor = .ok found ∧ compose found = .ok date := by
  rw [resolve_eq, mapError_eq_ok_iff, bind_eq_ok_iff]

/-- A template names a date when it has three fields, each of them says something, and the three
form a date. -/
theorem resolve_eq_ok_iff {template : String} {anchor date : Date} :
    resolve template anchor = .ok date ↔ ∃ fields found, split template = .ok fields ∧
      terms fields anchor = .ok found ∧ compose found = .ok date := by
  simp only [resolve_eq_ok_iff_readTerms, readTerms_eq, bind_eq_ok_iff]
  constructor
  · intro h
    obtain ⟨found, ⟨fields, hs, ht⟩, hc⟩ := h
    exact ⟨fields, found, hs, ht, hc⟩
  · intro h
    obtain ⟨fields, found, hs, ht, hc⟩ := h
    exact ⟨found, ⟨fields, hs, ht⟩, hc⟩

end Almanac.Template
