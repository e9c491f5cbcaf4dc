import Almanac.Proofs.Template.Endings
import Almanac.Proofs.Template.Joined

/-! Field texts in brackets.

Brackets around a field text say nothing; they only keep a `-` in it from separating two fields. A
template can therefore be written from any three field texts without brackets, each of them as it
is or in brackets, as long as the texts that hold a `-` are in brackets (`Protects`). All these
spellings are split into the same fields, the texts without the gaps at their ends
(`split_spelling`), and so lead to the same date or fault from every anchor (`brackets_quote`). -/
namespace Almanac.Template

/-! ### Spellings -/

/-- A field text as it stands in a template: as it is, or in brackets. -/
def enclose (bracketed : Bool) (text : String) : String :=
  if bracketed then "<" ++ text ++ ">" else text

/-- The template that three field texts are written as, each as it is or in brackets. -/
def spelling (bracketed : Triple Bool) (texts : Triple String) : String :=
  enclose bracketed.year texts.year ++ "-" ++ enclose bracketed.month texts.month ++ "-" ++
    enclose bracketed.day texts.day

instance (cs : List Char) : Decidable (Plain cs) :=
  List.decidableBAll (isBracket · = false) cs

/-- Every text that holds a `-` is in brackets. -/
def Protects (bracketed : Triple Bool) (texts : Triple String) : Prop :=
  ∀ field, '-' ∈ (texts.get field).toList → bracketed.get field = true

instance (bracketed : Triple Bool) (texts : Triple String) : Decidable (Protects bracketed texts) :=
  decidable_of_iff
    (∀ field ∈ Field.all, '-' ∈ (texts.get field).toList → bracketed.get field = true)
    ⟨fun h field => h field field.mem_all, fun h field _ => h field⟩

/-- The pieces that three field texts become. -/
def enclosed (bracketed : Triple Bool) (texts : Triple String) : Triple (List Char) :=
  ⟨(enclose bracketed.year texts.year).toList, (enclose bracketed.month texts.month).toList,
    (enclose bracketed.day texts.day).toList⟩

theorem get_enclosed (bracketed : Triple Bool) (texts : Triple String) (field : Field) :
    (enclosed bracketed texts).get field =
      (enclose (bracketed.get field) (texts.get field)).toList := by
  cases field <;> rfl

theorem toList_enclose (bracketed : Bool) (text : String) : (enclose bracketed text).toList =
    if bracketed then '<' :: text.toList ++ ['>'] else text.toList := by
  cases bracketed with
  | false => rfl
  | true => simp [enclose, String.toList_append]

/-- A spelling is its pieces joined by separators. -/
theorem spelling_eq (bracketed : Triple Bool) (texts : Triple String) :
    spelling bracketed texts =
      String.ofList (['-'].intercalate (enclosed bracketed texts).toList) := by
  rw [← String.toList_inj, String.toList_ofList, intercalate_toList]
  simp [spelling, enclosed, String.toList_append]

section Spelling
variable {texts : Triple String} {bracketed : Triple Bool}

theorem isPiece_enclose {text : String} {bracketed : Bool} (plain : Plain text.toList)
    (protects : '-' ∈ text.toList → bracketed = true) :
    IsPiece (enclose bracketed text).toList := by
  rw [toList_enclose]
  cases bracketed with
  | true => exact isPiece_bracketed plain
  | false => exact isPiece_plain plain fun separator => Bool.noConfusion (protects separator)

/-- Without the brackets the text is left. -/
theorem unbracketed_enclose {text : String} (plain : Plain text.toList) (bracketed : Bool) :
    unbracketed (enclose bracketed text).toList = text.toList := by
  rw [toList_enclose]
  cases bracketed with
  | true => exact unbracketed_bracketed plain
  | false => exact unbracketed_plain plain

/-- A text counts as a field when there is a character in it, be it a blank. -/
theorem all_isBracket_enclose {text : String} (plain : Plain text.toList) (bracketed : Bool) :
    (enclose bracketed text).toList.all isBracket = true ↔ text = "" := by
  rw [← unbracketed_eq_nil_iff, unbracketed_enclose plain, String.toList_eq_nil_iff]

theorem isPiece_enclosed (plain : ∀ field, Plain (texts.get field).toList)
    (protects : Protects bracketed texts) :
    ∀ piece ∈ (enclosed bracketed texts).toList, IsPiece piece := by
  have each (field : Field) : IsPiece ((enclosed bracketed texts).get field) := by
    rw [get_enclosed]
    exact isPiece_enclose (plain field) (protects field)
  simp only [Triple.toList, List.forall_mem_cons]
  exact ⟨each .year, each .month, each .day, List.forall_mem_nil _⟩

/-- What the pieces say. -/
theorem map_textOf_enclosed (plain : ∀ field, Plain (texts.get field).toList)
    (bracketed : Triple Bool) : (enclosed bracketed texts).map textOf =
      texts.map fun text => Text.trim text.toList := by
  refine Triple.ext_get fun field => ?_
  rw [Triple.get_map, Triple.get_map, get_enclosed, textOf, unbracketed_enclose (plain field)]

/-! ### Splitting a spelling -/

theorem split_spelling (plain : ∀ field, Plain (texts.get field).toList)
    (protects : Protects bracketed texts) (day : texts.day ≠ "") :
    split (spelling bracketed texts) =
      .ok (texts.map fun text => String.ofList (Text.trim text.toList)) := by
  have counts : (enclosed bracketed texts).day.all isBracket = false :=
    Bool.eq_false_iff.2 fun bare => day ((all_isBracket_enclose (plain .day) _).1 bare)
  rw [spelling_eq, split_joined (isPiece_enclosed plain protects) counts, map_textOf_enclosed plain]
  rfl

/-- An empty last text is no field, in brackets or not. -/
theorem split_spelling_of_empty (plain : ∀ field, Plain (texts.get field).toList)
    (protects : Protects bracketed texts) (day : texts.day = "") :
    split (spelling bracketed texts) = .error (.fieldCount 2) := by
  have bare : (enclosed bracketed texts).day.all isBracket = true :=
    (all_isBracket_enclose (plain .day) _).2 day
  have two : dropBareLast (enclosed bracketed texts).toList =
      [(enclosed bracketed texts).year, (enclosed bracketed texts).month] := by
    show dropBareLast ([_, _] ++ [_]) = _
    exact dropBareLast_append bare
  rw [spelling_eq, split_eq, String.toList_ofList,
    pieces_joined (by simp [Triple.toList]) (isPiece_enclosed plain protects), two]
  rfl

end Spelling

/-! ### What a spelling leads to -/

theorem mapError_fault_resolve (template : String) (anchor : Date) :
    (resolve template anchor).mapError (·.fault) = readTerms template anchor >>= compose := by
  rw [resolve_eq]
  cases readTerms template anchor >>= compose with
  | error fault => rfl
  | ok date => rfl

/-- What a template leads to is settled by its fields. -/
theorem mapError_fault_resolve_congr {s t : String} (same : split s = split t) (anchor : Date) :
    (resolve s anchor).mapError (·.fault) = (resolve t anchor).mapError (·.fault) := by
  rw [mapError_fault_resolve, mapError_fault_resolve, readTerms_eq, readTerms_eq, same]

/-- **Field texts in brackets.** Any two spellings of three field texts without brackets, in both of
which the texts that hold a `-` are in brackets, lead to the same date or to the same fault from
every anchor. A spelling is split into the texts without the gaps at their ends, or into two fields
when the last text is empty. -/
theorem brackets_quote {texts : Triple String} (plain : ∀ field, Plain (texts.get field).toList) :
    (∀ one other : Triple Bool, Protects one texts → Protects other texts → ∀ anchor,
      (resolve (spelling one texts) anchor).mapError (·.fault) =
        (resolve (spelling other texts) anchor).mapError (·.fault)) ∧
    ∀ bracketed : Triple Bool, Protects bracketed texts →
      (texts.day ≠ "" → split (spelling bracketed texts) =
        .ok (texts.map fun text => String.ofList (Text.trim text.toList))) ∧
      (texts.day = "" → split (spelling bracketed texts) = .error (.fieldCount 2)) := by
  refine ⟨fun one other protects protects' anchor => mapError_fault_resolve_congr ?_ anchor,
    fun bracketed protects => ⟨split_spelling plain protects, split_spelling_of_empty plain protects⟩⟩
  by_cases day : texts.day = ""
  · rw [split_spelling_of_empty plain protects day, split_spelling_of_empty plain protects' day]
  · rw [split_spelling plain protects day, split_spelling plain protects' day]

/-- A month with a sign has to be in brackets; the others may be, gaps and all. With an empty day
there are two fields. -/
theorem brackets_quote_month :
    ((∀ field, Plain ((⟨"YEAR", "month - 2", " 07 "⟩ : Triple String).get field).toList) ∧
      Protects ⟨false, true, false⟩ ⟨"YEAR", "month - 2", " 07 "⟩ ∧
      Protects ⟨true, true, true⟩ ⟨"YEAR", "month - 2", " 07 "⟩ ∧
      (resolve "YEAR-<month - 2>- 07 " ⟨2024, 1, 15, by decide⟩).mapError (·.fault) =
        .ok ⟨2023, 11, 7, by decide⟩ ∧
      (resolve "YEAR-<month - 2>- 07 " ⟨2024, 1, 15, by decide⟩).mapError (·.fault) =
        (resolve "<YEAR>-<month - 2>-< 07 >" ⟨2024, 1, 15, by decide⟩).mapError (·.fault)) ∧
    (∀ field, Plain ((⟨"YEAR-1", "", ""⟩ : Triple String).get field).toList) ∧
      Protects ⟨true, false, true⟩ ⟨"YEAR-1", "", ""⟩ ∧
      split "<YEAR-1>--<>" = .error (.fieldCount 2) := by
  have plain : ∀ field, Plain ((⟨"YEAR", "month - 2", " 07 "⟩ : Triple String).get field).toList := by
    rintro (_ | _ | _) <;> decide
  have plainEmpty : ∀ field, Plain ((⟨"YEAR-1", "", ""⟩ : Triple String).get field).toList := by
    rintro (_ | _ | _) <;> decide
  have one : Protects ⟨false, true, false⟩ ⟨"YEAR", "month - 2", " 07 "⟩ := by decide
  have all : Protects ⟨true, true, true⟩ ⟨"YEAR", "month - 2", " 07 "⟩ := by decide
  have empty : Protects ⟨true, false, true⟩ ⟨"YEAR-1", "", ""⟩ := by decide
  exact ⟨⟨plain, one, all, by decide +kernel, (brackets_quote plain).1 _ _ one all _⟩,
    plainEmpty, empty, ((brackets_quote plainEmpty).2 _ empty).2 rfl⟩

end Almanac.Template
