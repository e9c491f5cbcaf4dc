import Almanac.Proofs.Template.Language

/-! How templates end.

The last field is the one that the end of the template cuts off, and two things about it are not
written down by a separator or a bracket. A separator at the end begins a piece that does not count
unless something is written in it, so a template may have one separator more than its three fields
need (`separators_of_resolve`). And a region that is still open reaches to the end, as if it were
closed there (`resolve_open_region`). -/
namespace Almanac.Template

/-! ### A separator at the end -/

theorem dropBareLast_append {pieces : List (List Char)} {piece : List Char}
    (bare : piece.all isBracket = true) : dropBareLast (pieces ++ [piece]) = pieces := by
  have last : bareLast (pieces ++ [piece]) = true := by
    rw [bareLast, List.getLast?_concat, Option.any_some, bare]
  rw [dropBareLast, if_pos last, List.dropLast_concat]

theorem walks_append {pieces : List (List Char)} {piece : List Char} (h : pieces ≠ []) :
    Walks .before (pieces ++ [piece]) ↔ Walks .before pieces ∧ (walk .before piece).isSome := by
  rw [walks_before h, walks_before (by simp), List.forall_mem_append, List.forall_mem_singleton]

/-- A template that is read has two separators, or a third one with nothing but brackets after
it. -/
theorem separators_of_readTerms {template : String} {anchor : Date} {found : Triple Term}
    (h : readTerms template anchor = .ok found) :
    separators false template.toList =
      if bareLast (rawPieces false template.toList) then 3 else 2 := by
  obtain ⟨-, raw, three, -⟩ := readTerms_eq_ok_iff.1 h
  have count := length_rawPieces false template.toList
  have three := congrArg List.length three
  unfold dropBareLast at three
  split
  · next bare =>
    rw [if_pos bare, List.length_dropLast, count] at three
    exact three
  · next text =>
    rw [if_neg text, count] at three
    exact Nat.succ.inj three

/-- After a template that is read, a separator with nothing but brackets after it changes nothing,
but only one may stand there. -/
theorem readTerms_append {template : String} {anchor : Date} {found : Triple Term}
    {brackets : List Char} (closed : openAfter false template.toList = false)
    (one : rawPieces false brackets = [brackets]) (bare : brackets.all isBracket = true)
    (walked : (walk .before brackets).isSome)
    (count : separators false template.toList =
      if bareLast (rawPieces false template.toList) then 3 else 2) :
    readTerms (template ++ String.ofList ('-' :: brackets)) anchor = .ok found ↔
      bareLast (rawPieces false template.toList) = false ∧ readTerms template anchor = .ok found := by
  have pieces : rawPieces false (template ++ String.ofList ('-' :: brackets)).toList =
      rawPieces false template.toList ++ [brackets] := by
    rw [String.toList_append, String.toList_ofList, rawPieces_append_separator closed, one]
  rw [readTerms_eq_ok_iff, readTerms_eq_ok_iff, pieces, walks_append (rawPieces_ne_nil _ _),
    dropBareLast_append bare, and_iff_left walked]
  cases last : bareLast (rawPieces false template.toList) with
  | false =>
    rw [dropBareLast, last]
    simp
  | true =>
    -- The piece of brackets that did not count is no longer the last one, and is one too many.
    have four := length_rawPieces false template.toList
    rw [count, last] at four
    constructor
    · intro h
      obtain ⟨-, raw, three, -⟩ := h
      rw [three] at four
      nomatch four
    · intro h
      obtain ⟨last, -⟩ := h
      nomatch last

/-- No field ends in a sign. -/
theorem isOperator_of_getLast? {field : Field} {anchor : Date} {cs : List Char} {term : Term}
    {c : Char} (h : Says field anchor cs term) (last : cs.getLast? = some c) : isOperator c = false := by
  cases h with
  | literal numeral =>
    exact unsigned_numeral numeral c (List.mem_of_getLast? last)
  | keyword word =>
    exact unsigned_of_isKeyword word c (List.mem_of_getLast? last)
  | offset _ _ _ _ numeral =>
    rw [List.getLast?_append, List.getLast?_eq_some_getLast numeral.1, Option.some_or] at last
    obtain rfl := Option.some.inj last
    exact unsigned_numeral numeral _ (List.getLast_mem numeral.1)

/-- In an open region a separator is a sign, and a template that ends in one is not read. -/
theorem readTerms_append_open {template : String} (opened : openAfter false template.toList = true)
    (anchor : Date) (found : Triple Term) : readTerms (template ++ "-") anchor ≠ .ok found := by
  intro h
  obtain ⟨-, raw, three, spoken⟩ := readTerms_eq_ok_iff.1 h
  -- The last piece ends in the sign, so it counts, and would have to be the day.
  obtain ⟨piece, last⟩ := getLast?_rawPieces_append opened
  have text : bareLast (rawPieces false (template.toList ++ ['-'])) = false := by
    rw [bareLast, last, Option.any_some, List.all_append]
    exact Bool.and_false _
  rw [String.toList_append] at three
  have three : rawPieces false (template.toList ++ ['-']) = raw.toList := by
    rwa [dropBareLast, if_neg (by simp [text])] at three
  rw [three] at last
  have day : raw.day = piece ++ ['-'] := Option.some.inj last
  have sign : (textOf (raw.get .day)).getLast? = some '-' := by
    show (Text.trim (unbracketed raw.day)).getLast? = _
    rw [day, unbracketed, List.filter_append]
    exact Text.getLast?_trim_append (by decide) _
  exact absurd (isOperator_of_getLast? (spoken .day) sign) (by decide)

/-- Nor is one that opens a region within it. -/
theorem readTerms_append_open_brackets {template : String}
    (opened : openAfter false template.toList = true) (anchor : Date) (found : Triple Term) :
    readTerms (template ++ "-<>") anchor ≠ .ok found := by
  intro h
  obtain ⟨walks, -⟩ := readTerms_eq_ok_iff.1 h
  have parts : (template ++ "-<>").toList = (template.toList ++ ['-']) ++ '<' :: ['>'] := by
    simp [String.toList_append]
  have parted := cut_eq_ok_iff.2 ⟨walks, rfl⟩
  rw [parts] at parted
  obtain ⟨closed, -⟩ := cut_at_open parted
  have closed : openAfter false (template.toList ++ ['-']) = false := closed
  rw [openAfter_append, opened] at closed
  nomatch closed

/-- A separator at the end of a template that is read, with nothing but brackets after it. -/
theorem readTerms_append_separator {template tail : String} {anchor later : Date}
    {found next : Triple Term} (h : readTerms template anchor = .ok found)
    (ht : tail ∈ ["-", "-<>"]) :
    readTerms (template ++ tail) later = .ok next ↔
      bareLast (rawPieces false template.toList) = false ∧
        openAfter false template.toList = false ∧ readTerms template later = .ok next := by
  have count := separators_of_readTerms h
  have tails : tail = "-" ∨ tail = "-<>" := by simpa using ht
  cases region : openAfter false template.toList with
  | true =>
    have unread : readTerms (template ++ tail) later ≠ .ok next := by
      rcases tails with rfl | rfl
      · exact readTerms_append_open region later next
      · exact readTerms_append_open_brackets region later next
    simp [unread]
  | false =>
    rw [and_iff_right rfl]
    rcases tails with rfl | rfl
    · exact readTerms_append region (show rawPieces false [] = [[]] from rfl) rfl rfl count
    · exact readTerms_append region (show rawPieces false ['<', '>'] = [['<', '>']] from rfl) rfl rfl
        count

/-- **A separator at the end.** A template that names a date has two separators, or three with
nothing but brackets after the third. It can be extended by a separator, or by one with an empty
region after it, exactly when it has two and no open region, and names the same dates then. -/
theorem separators_of_resolve {template : String} {anchor date : Date}
    (h : resolve template anchor = .ok date) :
    separators false template.toList =
        (if bareLast (rawPieces false template.toList) then 3 else 2) ∧
      ∀ tail ∈ ["-", "-<>"], ∀ later next, resolve (template ++ tail) later = .ok next ↔
        bareLast (rawPieces false template.toList) = false ∧
          openAfter false template.toList = false ∧ resolve template later = .ok next := by
  obtain ⟨found, read, -⟩ := resolve_eq_ok_iff_readTerms.1 h
  refine ⟨separators_of_readTerms read, fun tail ht later next => ?_⟩
  simp only [resolve_eq_ok_iff_readTerms, readTerms_append_separator read ht]
  constructor
  · intro h
    obtain ⟨found, ⟨text, closed, read⟩, composed⟩ := h
    exact ⟨text, closed, found, read, composed⟩
  · intro h
    obtain ⟨text, closed, found, read, composed⟩ := h
    exact ⟨found, ⟨text, closed, read⟩, composed⟩

/-- A third separator is accepted at the end, and no fourth. -/
theorem separators_third :
    resolve "2024-01-01-" ⟨2024, 6, 15, by decide⟩ = .ok ⟨2024, 1, 1, by decide⟩ ∧
      separators false "2024-01-01-".toList = 3 ∧
      ¬ resolve ("2024-01-01-" ++ "-<>") ⟨2024, 6, 15, by decide⟩ =
        .ok ⟨2024, 1, 1, by decide⟩ := by
  have read : resolve "2024-01-01-" ⟨2024, 6, 15, by decide⟩ = .ok ⟨2024, 1, 1, by decide⟩ := rfl
  obtain ⟨three, extended⟩ := separators_of_resolve read
  refine ⟨read, three, fun h => ?_⟩
  exact absurd ((extended "-<>" (by simp) _ _).1 h).1 (by decide)

/-- Not every template that names a date has two separators. -/
theorem not_two_separators :
    ¬ ∀ template anchor date, resolve template anchor = .ok date →
      separators false template.toList = 2 := by
  intro all
  have two := all "2024-01-01-" ⟨2024, 6, 15, by decide⟩ ⟨2024, 1, 1, by decide⟩ rfl
  exact absurd two (by decide)

/-! ### An open region at the end -/

/-- Whether the next bracket after every `<` is a `>`. -/
def Balanced (cs : List Char) : Prop :=
  ∀ front back, cs = front ++ '<' :: back → back.find? isBracket = some '>'

/-- What is open at the end was open at the start, or a `<` opened it. -/
theorem exists_open {inside : Bool} {cs : List Char} (h : openAfter inside cs = true) :
    (inside = true ∧ '>' ∉ cs) ∨ ∃ front back, cs = front ++ '<' :: back ∧ '>' ∉ back := by
  induction cs generalizing inside with
  | nil => exact .inl ⟨h, List.not_mem_nil⟩
  | cons c cs ih =>
    rw [openAfter_cons] at h
    obtain ⟨opened, unclosed⟩ | ⟨front, back, rfl, unclosed⟩ := ih h
    · cases inside with
      | true =>
        have text : c ≠ '>' := by simpa [openNext] using opened
        exact .inl ⟨rfl, List.not_mem_cons_of_ne_of_not_mem text.symm unclosed⟩
      | false =>
        obtain rfl : c = '<' := by simpa [openNext] using opened
        exact .inr ⟨[], cs, rfl, unclosed⟩
    · exact .inr ⟨c :: front, back, rfl, unclosed⟩

/-- The next bracket of a region that is closed is its end. -/
theorem find?_of_cut_inside {cs : List Char} {found : List (List Char)}
    (h : cut .inside cs = .ok found) (closed : openAfter true cs = false) :
    cs.find? isBracket = some '>' := by
  induction cs generalizing found with
  | nil => exact Bool.noConfusion closed
  | cons c cs ih =>
    cases text : isBracket c with
    | true =>
      obtain rfl | rfl : c = '<' ∨ c = '>' := by simpa [isBracket] using text
      · cases h
      · rfl
    | false =>
      have stay : enter .inside c = some .inside := enter_plain text
      rw [cut_cons, if_neg (by simp), stay] at h
      simp only [text, Bool.false_eq_true, if_false] at h
      obtain ⟨rest, h, -⟩ := map_eq_ok_iff.1 h
      have inside := openNext_of_enter stay
      rw [openAfter_cons, show openNext true c = true from inside] at closed
      rw [List.find?_cons_of_neg (by simp [text])]
      exact ih h closed

/-- In a text that is cut, only the last region can lack its end. -/
theorem balanced_iff {cs : List Char} {found : List (List Char)} (h : cut .before cs = .ok found) :
    Balanced cs ↔ openAfter false cs = false := by
  constructor
  · intro balanced
    refine Bool.eq_false_iff.2 fun opened => ?_
    obtain ⟨absurd, -⟩ | ⟨front, back, parts, unclosed⟩ := exists_open opened
    · nomatch absurd
    · exact unclosed (List.mem_of_find?_eq_some (balanced front back parts))
  · intro closed front back parts
    subst parts
    obtain ⟨outside, rest, inner⟩ := cut_at_open h
    have outside : openAfter false front = false := outside
    rw [openAfter_append, outside] at closed
    exact find?_of_cut_inside inner closed

theorem readTerms_append_close {template : String} (opened : openAfter false template.toList = true)
    (anchor : Date) : readTerms (template ++ ">") anchor = readTerms template anchor := by
  have opened : openAfter (Region.before == .inside) template.toList = true := opened
  have same : pieces (template ++ ">").toList = pieces template.toList := by
    rw [String.toList_append]
    show pieces (template.toList ++ ['>']) = _
    rw [pieces, pieces, cut_append_close opened]
  rw [readTerms_eq, readTerms_eq, split_eq, split_eq, same]

/-- **A region open at the end.** The brackets of a template that names a date are balanced exactly
when no region is open at its end; and a template with a region open at its end names the date that
it names with the region closed there, if it names one. -/
theorem resolve_open_region (template : String) (anchor date : Date) :
    (resolve template anchor = .ok date →
      (Balanced template.toList ↔ openAfter false template.toList = false)) ∧
    (openAfter false template.toList = true →
      (resolve template anchor = .ok date ↔ resolve (template ++ ">") anchor = .ok date)) := by
  constructor
  · intro h
    obtain ⟨found, read, -⟩ := resolve_eq_ok_iff_readTerms.1 h
    obtain ⟨walks, -⟩ := readTerms_eq_ok_iff.1 read
    exact balanced_iff (cut_eq_ok_iff.2 ⟨walks, rfl⟩)
  · intro opened
    rw [resolve_eq_ok_iff_readTerms, resolve_eq_ok_iff_readTerms, readTerms_append_close opened]

/-- A day left open is the day. -/
theorem resolve_open_day :
    resolve "2024-01-<DAY" ⟨2024, 6, 15, by decide⟩ = .ok ⟨2024, 1, 15, by decide⟩ ∧
      openAfter false "2024-01-<DAY".toList = true ∧
      resolve ("2024-01-<DAY" ++ ">") ⟨2024, 6, 15, by decide⟩ = .ok ⟨2024, 1, 15, by decide⟩ ∧
      ¬ Balanced "2024-01-<DAY".toList := by
  have opened : openAfter false "2024-01-<DAY".toList = true := by decide
  have read : resolve "2024-01-<DAY" ⟨2024, 6, 15, by decide⟩ = .ok ⟨2024, 1, 15, by decide⟩ := rfl
  obtain ⟨balanced, closed⟩ := resolve_open_region "2024-01-<DAY" ⟨2024, 6, 15, by decide⟩
    ⟨2024, 1, 15, by decide⟩
  refine ⟨read, opened, (closed opened).1 read, fun h => ?_⟩
  exact Bool.noConfusion (((balanced read).1 h).symm.trans opened)

/-- Not every template that names a date has balanced brackets. -/
theorem not_balanced :
    ¬ ∀ template anchor date, resolve template anchor = .ok date → Balanced template.toList := by
  intro all
  have balanced := all "2024-01-<DAY" ⟨2024, 6, 15, by decide⟩ ⟨2024, 1, 15, by decide⟩ rfl
  exact absurd (balanced "2024-01-".toList "DAY".toList rfl) (by decide)

end Almanac.Template
