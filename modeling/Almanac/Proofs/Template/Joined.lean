import Almanac.Proofs.Template.Language

/-! Templates put together from pieces.

A text without brackets and separators is a piece of a template as it stands, and any text without
brackets is one once it is put in brackets (`isPiece_plain`, `isPiece_bracketed`). Pieces joined by
separators are cut into the same pieces again (`rawPieces_joined`), and three of them are split into
what they say (`split_joined`). -/
namespace Almanac.Template

/-! ### Pieces -/

/-- A text in which no separator stands outside its only region, which it closes. -/
structure IsPiece (piece : List Char) : Prop where
  whole : rawPieces false piece = [piece]
  oneRegion : OneRegion piece

theorem IsPiece.closed {piece : List Char} (h : IsPiece piece) : openAfter false piece = false :=
  (oneRegion_iff.1 h.oneRegion).2

theorem rawPieces_of_separators {inside : Bool} {cs : List Char} (h : separators inside cs = 0) :
    rawPieces inside cs = [cs] := by
  induction cs generalizing inside with
  | nil => rfl
  | cons c cs ih =>
    rw [separators, Nat.add_eq_zero_iff] at h
    obtain ⟨text, rest⟩ := h
    rw [rawPieces, if_neg (by simpa using text), ih rest]
    rfl

theorem separators_of_not_mem {inside : Bool} {cs : List Char} (h : '-' ∉ cs) :
    separators inside cs = 0 := by
  induction cs generalizing inside with
  | nil => rfl
  | cons c cs ih =>
    obtain ⟨first, rest⟩ := List.ne_and_not_mem_of_not_mem_cons h
    rw [separators, if_neg fun separator => first separator.1.symm, ih rest]

/-- Inside a region nothing separates, up to the bracket that ends it. -/
theorem separators_inside {cs : List Char} (h : Plain cs) : separators true (cs ++ ['>']) = 0 := by
  induction cs with
  | nil => rfl
  | cons c cs ih =>
    obtain ⟨text, rest⟩ := List.forall_mem_cons.1 h
    rw [List.cons_append, separators, openNext_plain text, ih rest, if_neg (by simp)]

/-- A text without brackets and separators. -/
theorem isPiece_plain {cs : List Char} (h : Plain cs) (single : '-' ∉ cs) : IsPiece cs :=
  ⟨rawPieces_of_separators (separators_of_not_mem single), .plain h⟩

/-- A text in brackets. -/
theorem isPiece_bracketed {cs : List Char} (h : Plain cs) : IsPiece ('<' :: cs ++ ['>']) := by
  constructor
  · refine rawPieces_of_separators ?_
    show 0 + separators true (cs ++ ['>']) = 0
    rw [separators_inside h]
  · show OneRegion ([] ++ '<' :: cs ++ '>' :: [])
    exact .region nofun h nofun

theorem unbracketed_plain {cs : List Char} (h : Plain cs) : unbracketed cs = cs :=
  List.filter_eq_self.2 fun c hc => by rw [h c hc]; rfl

theorem unbracketed_bracketed {cs : List Char} (h : Plain cs) :
    unbracketed ('<' :: cs ++ ['>']) = cs := by
  have inner : unbracketed ('<' :: cs ++ ['>']) = unbracketed cs := by
    simp [unbracketed, isBracket]
  rw [inner, unbracketed_plain h]

theorem textOf_plain {cs : List Char} (h : Plain cs) : textOf cs = Text.trim cs := by
  rw [textOf, unbracketed_plain h]

/-- Brackets do not matter to what a piece says. -/
theorem textOf_bracketed {cs : List Char} (h : Plain cs) :
    textOf ('<' :: cs ++ ['>']) = Text.trim cs := by
  rw [textOf, unbracketed_bracketed h]

/-! ### Keywords and numerals -/

theorem plain_keyword (field : Field) : Plain field.keyword.toList := fun c hc => by
  simpa using of_keyword (p := (!isBracket ·)) (by decide) hc

theorem isPiece_keyword (field : Field) : IsPiece field.keyword.toList :=
  isPiece_plain (plain_keyword field) (by cases field <;> decide)

theorem textOf_keyword (field : Field) : textOf field.keyword.toList = field.keyword.toList := by
  rw [textOf_plain (plain_keyword field), trim_keyword]

theorem isBracket_of_isDigit {c : Char} (h : c.isDigit = true) : isBracket c = false :=
  Text.isDigit_cases (P := fun c => isBracket c = false) (by decide) h

theorem plain_numeral {digits : List Char} (h : Numeral digits) : Plain digits :=
  fun c hc => isBracket_of_isDigit (h.2 c hc)

theorem isPiece_numeral {digits : List Char} (h : Numeral digits) : IsPiece digits :=
  isPiece_plain (plain_numeral h) fun sign => Bool.noConfusion (unsigned_numeral h '-' sign)

theorem textOf_numeral {digits : List Char} (h : Numeral digits) : textOf digits = digits := by
  rw [textOf_plain (plain_numeral h), trim_numeral h]

/-- A text that begins with no blank and ends in a digit has nothing to trim. -/
theorem trim_cons_numeral {c : Char} {cs digits : List Char} (visible : Text.isBlank c = false)
    (h : Numeral digits) : Text.trim (c :: cs ++ digits) = c :: cs ++ digits := by
  apply Text.trim_eq_self
  · simp [visible]
  · rw [List.getLast?_append, List.getLast?_eq_some_getLast h.1]
    simp [Text.isBlank_of_isDigit (h.2 _ (List.getLast_mem h.1))]

/-- A last piece of digits counts as a field. -/
theorem all_isBracket_numeral {digits : List Char} (h : Numeral digits) :
    digits.all isBracket = false := by
  obtain ⟨c, hc⟩ := List.exists_mem_of_ne_nil digits h.1
  exact List.all_eq_false.2 ⟨c, hc, by rw [plain_numeral h c hc]; exact Bool.false_ne_true⟩

/-! ### Joining them -/

/-- Pieces joined by separators are cut into the same pieces. -/
theorem rawPieces_joined {parts : List (List Char)} (ne : parts ≠ [])
    (h : ∀ piece ∈ parts, IsPiece piece) : rawPieces false (['-'].intercalate parts) = parts := by
  induction parts with
  | nil => exact absurd rfl ne
  | cons first rest ih =>
    obtain ⟨head, tail⟩ := List.forall_mem_cons.1 h
    obtain _ | ⟨second, rest⟩ := rest
    · rw [List.intercalate_singleton, head.whole]
    · rw [List.intercalate_cons_cons, List.append_assoc, List.singleton_append,
        rawPieces_append_separator head.closed, head.whole, ih (List.cons_ne_nil _ _) tail]
      rfl

theorem pieces_joined {parts : List (List Char)} (ne : parts ≠ [])
    (h : ∀ piece ∈ parts, IsPiece piece) :
    pieces (['-'].intercalate parts) = .ok ((dropBareLast parts).map textOf) := by
  rw [pieces_eq_ok_iff, rawPieces_joined ne h, walks_before ne]
  exact ⟨fun piece hp => (oneRegion_iff.1 (h piece hp).oneRegion).1, rfl⟩

theorem dropBareLast_eq_self {parts : List (List Char)} {last : List Char}
    (text : last.all isBracket = false) : dropBareLast (parts ++ [last]) = parts ++ [last] := by
  have counts : bareLast (parts ++ [last]) = false := by
    rw [bareLast, List.getLast?_concat, Option.any_some, text]
  rw [dropBareLast, counts]
  rfl

theorem intercalate_toList (raw : Triple (List Char)) :
    ['-'].intercalate raw.toList = raw.year ++ '-' :: raw.month ++ '-' :: raw.day := by
  rw [Triple.toList, List.intercalate_cons_cons, List.intercalate_cons_cons,
    List.intercalate_singleton]
  simp

/-- Three pieces are split into what they say. -/
theorem split_joined {raw : Triple (List Char)} (h : ∀ piece ∈ raw.toList, IsPiece piece)
    (text : raw.day.all isBracket = false) :
    split (String.ofList (['-'].intercalate raw.toList)) =
      .ok ((raw.map textOf).map String.ofList) := by
  have kept : dropBareLast raw.toList = raw.toList := by
    show dropBareLast ([raw.year, raw.month] ++ [raw.day]) = _
    exact dropBareLast_eq_self text
  rw [split_eq, String.toList_ofList, pieces_joined (by simp [Triple.toList]) h, kept]
  rfl

/-- Any other number of pieces is too few or too many. -/
theorem split_joined_of_count {parts : List (List Char)} {last : List Char}
    (h : ∀ piece ∈ parts ++ [last], IsPiece piece) (text : last.all isBracket = false)
    (count : parts.length ≠ 2) :
    split (String.ofList (['-'].intercalate (parts ++ [last]))) =
      .error (.fieldCount (parts.length + 1)) := by
  have ne : parts ++ [last] ≠ [] := by simp
  have walks : Walks .before (parts ++ [last]) := (walks_before ne).2 fun piece hp =>
    (oneRegion_iff.1 (h piece hp).oneRegion).1
  have kept : dropBareLast (parts ++ [last]) = parts ++ [last] := dropBareLast_eq_self text
  have whole : rawPieces false (String.ofList (['-'].intercalate (parts ++ [last]))).toList =
      parts ++ [last] := by
    rw [String.toList_ofList, rawPieces_joined ne h]
  have length : (parts ++ [last]).length = parts.length + 1 := List.length_append
  rw [split_of_count, whole, kept, length]
  · rwa [whole]
  · rw [whole, kept, length]
    exact fun three => count (Nat.succ.inj three)

end Almanac.Template
