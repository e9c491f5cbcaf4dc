import Almanac.Calendar.Weekday
import Almanac.Proofs.Text.LowerCase

/-! How a weekday is spelled.

A weekday has two spellings, its name and the first three letters of it, and no two weekdays share
one. `ofName?_eq_some_iff` says that a text is read as the weekday that it spells, with blanks around
it and in ASCII letters of either case, and that nothing else is read: no letter beyond ASCII stands
in for one of a spelling, since only the k has such a letter and no weekday has a k. -/
namespace Almanac.Weekday

/-- A text that is the name of a weekday or its first three letters, blanks around it and the case
of ASCII letters aside. -/
def Spells (s : String) (day : Weekday) : Prop :=
  let word := (Text.trim s.toList).map Char.toLower
  word = day.name.toList.map Char.toLower ∨ word = (day.name.toList.take 3).map Char.toLower

instance (s : String) (day : Weekday) : Decidable (Spells s day) :=
  inferInstanceAs (Decidable (_ ∨ _))

/-! ### The spellings -/

theorem spellings_eq (day : Weekday) : day.spellings =
    [day.name.toList.map Char.toLower, (day.name.toList.take 3).map Char.toLower] := by
  cases day <;> rfl

theorem isWordLetter_spelling {day : Weekday} :
    ∀ word ∈ day.spellings, word.all Text.isWordLetter = true := by
  cases day <;> decide

/-- No two weekdays share a spelling. -/
theorem eq_of_mem_spellings {day day' : Weekday} :
    ∀ word ∈ day.spellings, word ∈ day'.spellings → day = day' := by
  cases day <;> cases day' <;> decide

theorem spells_iff {s : String} {day : Weekday} :
    Spells s day ↔ Text.lower (Text.trim s.toList) ∈ day.spellings := by
  have spelled (word : List Char) (spelling : word ∈ day.spellings) :
      Text.lower (Text.trim s.toList) = word ↔ (Text.trim s.toList).map Char.toLower = word :=
    Text.lower_eq_iff (List.all_eq_true.1 (isWordLetter_spelling word spelling))
  rw [spellings_eq] at spelled ⊢
  simp only [List.mem_cons, List.not_mem_nil, or_false] at spelled ⊢
  rw [spelled _ (.inl rfl), spelled _ (.inr rfl)]
  rfl

/-! ### Reading -/

/-- A text spells one weekday at most. -/
theorem Spells.unique {s : String} {day day' : Weekday} (h : Spells s day) (h' : Spells s day') :
    day = day' :=
  eq_of_mem_spellings _ (spells_iff.1 h) (spells_iff.1 h')

/-- A text is read as the weekday that it spells. -/
theorem ofName?_eq_some_iff {s : String} {day : Weekday} :
    ofName? s = some day ↔ Spells s day := by
  have spelled {day : Weekday} (h : ofName? s = some day) : Spells s day := by
    unfold ofName? at h
    have found := List.find?_some h
    exact spells_iff.2 (List.contains_iff_mem.1 found)
  constructor
  · exact spelled
  · intro h
    cases read : ofName? s with
    | none =>
      unfold ofName? at read
      have other := List.find?_eq_none.1 read day day.mem_all
      exact absurd (List.contains_iff_mem.2 (spells_iff.1 h)) other
    | some day' => rw [(spelled read).unique h]

theorem spells_abbreviation (day : Weekday) : Spells day.abbreviation day := by
  cases day <;> decide

theorem abbreviation_injective {day day' : Weekday} (h : day.abbreviation = day'.abbreviation) :
    day = day' :=
  (spells_abbreviation day).unique (h ▸ spells_abbreviation day')

end Almanac.Weekday
