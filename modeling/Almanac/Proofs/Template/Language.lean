import Almanac.Proofs.Template.FieldText
import Almanac.Proofs.Template.Regions
import Almanac.Proofs.Text.Trim
import Almanac.Template.Resolve

/-! The language of templates.

A template is cut into its pieces, a last piece of nothing but brackets is left out, and the three
pieces that remain say something in their fields. `readTerms_eq_ok_iff` says so of any template,
and `parse_iff_language` of a template without an open region, in terms of the template alone: there a
piece can be walked exactly when it has at most one region. -/
namespace Almanac.Template

/-! ### The fields of a template -/

/-- Whether the last of some pieces holds nothing but brackets. -/
def bareLast (pieces : List (List Char)) : Bool :=
  pieces.getLast?.any (·.all isBracket)

/-- The pieces without the last one when that one holds nothing but brackets. -/
def dropBareLast (pieces : List (List Char)) : List (List Char) :=
  if bareLast pieces then pieces.dropLast else pieces

/-- What a piece says, brackets and gaps aside. -/
def textOf (piece : List Char) : List Char :=
  Text.trim (unbracketed piece)

theorem unbracketed_eq_nil_iff {piece : List Char} :
    unbracketed piece = [] ↔ piece.all isBracket = true := by
  simp [unbracketed, List.filter_eq_nil_iff]

theorem dropEmptyLast_map_unbracketed (pieces : List (List Char)) :
    dropEmptyLast (pieces.map unbracketed) = (dropBareLast pieces).map unbracketed := by
  have last : (pieces.map unbracketed).getLast? = some [] ↔ bareLast pieces = true := by
    rw [List.getLast?_map, bareLast]
    cases pieces.getLast? with
    | none => simp
    | some piece => simp [unbracketed_eq_nil_iff]
  unfold dropEmptyLast dropBareLast
  simp only [last]
  split
  · rw [List.map_dropLast]
  · rfl

theorem pieces_eq_ok_iff {cs : List Char} {found : List (List Char)} :
    pieces cs = .ok found ↔ Walks .before (rawPieces false cs) ∧
      found = (dropBareLast (rawPieces false cs)).map textOf := by
  have texts (raw : List (List Char)) :
      (dropEmptyLast (raw.map unbracketed)).map Text.trim = (dropBareLast raw).map textOf := by
    rw [dropEmptyLast_map_unbracketed, List.map_map]
    rfl
  rw [pieces, map_eq_ok_iff]
  constructor
  · intro h
    obtain ⟨parted, h, rfl⟩ := h
    obtain ⟨walks, rfl⟩ := cut_eq_ok_iff.1 h
    exact ⟨walks, texts _⟩
  · intro h
    obtain ⟨walks, rfl⟩ := h
    exact ⟨_, cut_eq_ok_iff.2 ⟨walks, rfl⟩, texts _⟩

/-- A template is split when its pieces can be walked and three of them count. -/
theorem split_eq_ok_iff {template : String} {fields : Triple String} :
    split template = .ok fields ↔ Walks .before (rawPieces false template.toList) ∧
      ∃ raw : Triple (List Char), dropBareLast (rawPieces false template.toList) = raw.toList ∧
        fields = (raw.map textOf).map String.ofList := by
  rw [split_eq, bind_eq_ok_iff]
  constructor
  · intro h
    obtain ⟨found, h, counted⟩ := h
    obtain ⟨walks, rfl⟩ := pieces_eq_ok_iff.1 h
    split at counted
    · next texts three =>
      obtain rfl := Except.ok.inj counted
      obtain ⟨raw, kept, rfl⟩ := Triple.map_eq_toList_iff.1 (Triple.ofList?_eq_some_iff.1 three)
      exact ⟨walks, raw, kept, rfl⟩
    · nomatch counted
  · intro h
    obtain ⟨walks, raw, h, rfl⟩ := h
    refine ⟨_, pieces_eq_ok_iff.2 ⟨walks, rfl⟩, ?_⟩
    rw [h]
    rfl

/-- If another number of them counts, this number is what is wrong. -/
theorem split_of_count {template : String}
    (walks : Walks .before (rawPieces false template.toList))
    (count : (dropBareLast (rawPieces false template.toList)).length ≠ 3) :
    split template =
      .error (.fieldCount (dropBareLast (rawPieces false template.toList)).length) := by
  have other : Triple.ofList? ((dropBareLast (rawPieces false template.toList)).map textOf) = none :=
    Triple.ofList?_eq_none_iff.2 (by rwa [List.length_map])
  rw [split_eq, bind_eq_error_iff]
  refine .inr ⟨_, pieces_eq_ok_iff.2 ⟨walks, rfl⟩, ?_⟩
  rw [other, List.length_map]

theorem terms_eq_ok_iff {fields : Triple String} {anchor : Date} {found : Triple Term} :
    terms fields anchor = .ok found ↔
      ∀ field, Term.ofText field anchor (fields.get field) = .ok (found.get field) := by
  simp only [terms_eq, bind_eq_ok_iff]
  constructor
  · intro h field
    obtain ⟨year, hy, month, hm, day, hd, rest⟩ := h
    obtain rfl := Except.ok.inj rest
    cases field with
    | year => exact hy
    | month => exact hm
    | day => exact hd
  · intro h
    exact ⟨_, h .year, _, h .month, _, h .day, rfl⟩

/-- A template is read when its pieces can be walked, three of them count, and each says something
in its field. -/
theorem readTerms_eq_ok_iff {template : String} {anchor : Date} {found : Triple Term} :
    readTerms template anchor = .ok found ↔ Walks .before (rawPieces false template.toList) ∧
      ∃ raw : Triple (List Char), dropBareLast (rawPieces false template.toList) = raw.toList ∧
        ∀ field, Says field anchor (textOf (raw.get field)) (found.get field) := by
  have spoken (raw : Triple (List Char)) :
      terms ((raw.map textOf).map String.ofList) anchor = .ok found ↔
        ∀ field, Says field anchor (textOf (raw.get field)) (found.get field) := by
    rw [terms_eq_ok_iff]
    refine forall_congr' fun field => ?_
    rw [Triple.get_map, Triple.get_map]
    exact ofText_eq_ok_iff (Text.trim_trim _)
  rw [readTerms_eq, bind_eq_ok_iff]
  constructor
  · intro h
    obtain ⟨fields, h, read⟩ := h
    obtain ⟨walks, raw, three, rfl⟩ := split_eq_ok_iff.1 h
    exact ⟨walks, raw, three, (spoken raw).1 read⟩
  · intro h
    obtain ⟨walks, raw, three, read⟩ := h
    exact ⟨_, split_eq_ok_iff.2 ⟨walks, raw, three, rfl⟩, (spoken raw).2 read⟩

/-! ### Templates without an open region -/

/-- Without an open region at the end, the pieces that can be walked are those with at most one
region. -/
theorem walks_iff_oneRegion {cs : List Char} (closed : openAfter false cs = false) :
    Walks .before (rawPieces false cs) ↔ ∀ piece ∈ rawPieces false cs, OneRegion piece := by
  obtain ⟨first, rest, pieces⟩ := exists_rawPieces false cs
  have closed : ∀ piece ∈ rawPieces false cs, openAfter false piece = false := by
    rw [pieces]
    exact List.forall_mem_cons.2 (closed_rawPieces pieces closed)
  rw [walks_before (rawPieces_ne_nil false cs)]
  refine forall₂_congr fun piece h => ?_
  rw [oneRegion_iff, and_iff_left (closed piece h)]

/-- **The language of templates.** A template that leaves no region open is read exactly when every
piece between its separators has at most one region, three pieces remain without a last one of
nothing but brackets, and each says something in its field; the terms are those that the pieces
say. -/
theorem parse_iff_language {template : String} {anchor : Date} {found : Triple Term}
    (closed : openAfter false template.toList = false) :
    parse template anchor = .ok found ↔
      (∀ piece ∈ rawPieces false template.toList, OneRegion piece) ∧
        ∃ raw : Triple (List Char), dropBareLast (rawPieces false template.toList) = raw.toList ∧
          ∀ field, Says field anchor (textOf (raw.get field)) (found.get field) := by
  rw [parse_eq_ok_iff, readTerms_eq_ok_iff, walks_iff_oneRegion closed]

/-- Regions may hold a sign; gaps, the case of letters and a bare last piece do not matter. -/
theorem parse_year_before :
    openAfter false "<year - 01>-02- Day +3-<>".toList = false ∧
      (∀ piece ∈ rawPieces false "<year - 01>-02- Day +3-<>".toList, OneRegion piece) ∧
        ∃ raw : Triple (List Char),
          dropBareLast (rawPieces false "<year - 01>-02- Day +3-<>".toList) = raw.toList ∧
            ∀ field, Says field ⟨2024, 6, 15, by decide⟩ (textOf (raw.get field))
              ((⟨⟨.year, 2024, -1⟩, ⟨.month, 2, 0⟩, ⟨.day, 15, 3⟩⟩ : Triple Term).get field) := by
  have closed : openAfter false "<year - 01>-02- Day +3-<>".toList = false := by decide
  exact ⟨closed, (parse_iff_language closed).1 rfl⟩

end Almanac.Template
