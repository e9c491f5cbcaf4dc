import Almanac.Proofs.Template.FieldText

/-! What a field takes from the anchor.

A field is literal or symbolic before the anchor is looked at. A literal field says the same from
every anchor (`ofText_literal`); a symbolic one takes its base value from the anchor and nothing
else (`ofText_symbolic`). -/
namespace Almanac.Template

/-- A text that is taken for a number. -/
def IsLiteral (field : Field) (text : String) : Prop :=
  ∃ digits, Entry.ofText field text = .ok (.literal digits)

/-- A text that is taken for the keyword with or without an offset. -/
def IsSymbolic (field : Field) (text : String) : Prop :=
  ∃ capitals, Entry.ofText field text = .ok (.symbolic capitals)

theorem ofText_of_entry {field : Field} {anchor : Date} {text : String} {entry : Entry}
    (h : Entry.ofText field text = .ok entry) :
    Term.ofText field anchor text = entry.term field anchor := by
  rw [Term.ofText, h]
  rfl

theorem literal_or_symbolic {field : Field} {anchor : Date} {text : String} {term : Term}
    (h : Term.ofText field anchor text = .ok term) : IsLiteral field text ∨ IsSymbolic field text := by
  obtain ⟨entry, he, -⟩ := bind_eq_ok_iff.1 h
  cases entry with
  | literal digits => exact .inl ⟨digits, he⟩
  | symbolic capitals => exact .inr ⟨capitals, he⟩

theorem ofText_literal {field : Field} {text : String} (h : IsLiteral field text) (a b : Date) :
    Term.ofText field a text = Term.ofText field b text := by
  obtain ⟨digits, h⟩ := h
  rw [ofText_of_entry h, ofText_of_entry h]
  rfl

theorem ofText_symbolic {field : Field} {text : String} (h : IsSymbolic field text) (a b : Date) :
    Term.ofText field b text =
      (Term.ofText field a text).map ({ · with base := .ofInt (b.valueOf field) }) := by
  obtain ⟨capitals, h⟩ := h
  rw [ofText_of_entry h, ofText_of_entry h]
  show (readOffset field capitals.toList).map _ = ((readOffset field capitals.toList).map _).map _
  cases readOffset field capitals.toList with
  | error fault => rfl
  | ok offset => rfl

/-! ### Two anchors -/

section TwoAnchors
variable {field : Field} {text : String} {a b : Date} {s t : Term}

/-- The offset is not the anchor's. -/
theorem offset_eq_of_ofText (hs : Term.ofText field a text = .ok s)
    (ht : Term.ofText field b text = .ok t) : s.offset = t.offset := by
  rcases literal_or_symbolic hs with literal | symbolic
  · rw [ofText_literal literal a b, ht] at hs
    rw [Except.ok.inj hs]
  · rw [ofText_symbolic symbolic a b, hs] at ht
    rw [← Except.ok.inj ht]

/-- Nor is the base value of a literal field. -/
theorem base_eq_of_literal (literal : IsLiteral field text) (hs : Term.ofText field a text = .ok s)
    (ht : Term.ofText field b text = .ok t) : s.base = t.base := by
  rw [ofText_literal literal a b, ht] at hs
  rw [Except.ok.inj hs]

theorem base_of_symbolic (symbolic : IsSymbolic field text)
    (ht : Term.ofText field b text = .ok t) : t.base.toInt = b.valueOf field := by
  have same := ht
  rw [ofText_symbolic symbolic b b, ht] at same
  rw [← Except.ok.inj same]
  exact toInt_valueOf b field

end TwoAnchors

end Almanac.Template
