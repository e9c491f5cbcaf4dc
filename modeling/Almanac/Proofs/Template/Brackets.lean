import Almanac.Proofs.Template.Language
import Mathlib.Data.List.Induction

/-! Brackets out of place.

Whether a bracket may stand where it stands is settled by the text before it: by whether a region is
open there, and whether one was closed since the last separator (`Offends`). What follows the bracket
has no say in it. `cut` knows of the text before a bracket only the place it has come to, and that is
enough (`stands_of_scan`): it stops at the first bracket out of place
(`cut_eq_error_iff_firstOffence`). With that, `split_exact` says what splitting does with any text. -/
namespace Almanac.Template

/-! ### The first bracket out of place -/

/-- Whether the last piece of a text has had its region: one was closed, and no separator stands
after its end. -/
def HadRegion (front : List Char) : Prop :=
  ∃ before since, front = before ++ '>' :: since ∧ openAfter false before = true ∧
    separators false since = 0

/-- What is wrong with a bracket after a text. -/
inductive Offends (front : List Char) : Char → Fault → Prop where
  /-- A region begins inside a region. -/
  | nested : openAfter false front = true → Offends front '<' .nestedBracket
  /-- A piece that had its region begins another. -/
  | second : openAfter false front = false → HadRegion front → Offends front '<' .unexpectedBracket
  /-- A region ends where none is open. -/
  | unmatched : openAfter false front = false → Offends front '>' .unmatchedBracket

/-- No bracket of a text is out of place. -/
def WellBracketed (cs : List Char) : Prop :=
  ∀ front c back fault, cs = front ++ c :: back → ¬ Offends front c fault

/-- A text up to its first bracket out of place, and the fault of that bracket. Any text may
follow. -/
def FirstOffence (cs : List Char) (fault : Fault) : Prop :=
  ∃ front c back, cs = front ++ c :: back ∧ WellBracketed front ∧ Offends front c fault

theorem separators_concat (inside : Bool) (cs : List Char) (c : Char) :
    separators inside (cs ++ [c]) =
      separators inside cs + if c = '-' ∧ openAfter inside cs = false then 1 else 0 := by
  rw [separators_append]
  rfl

theorem openAfter_concat (inside : Bool) (cs : List Char) (c : Char) :
    openAfter inside (cs ++ [c]) = openNext (openAfter inside cs) c := by
  rw [openAfter_append]
  rfl

/-- After the end of a region the text goes on outside. -/
theorem openAfter_close {before : List Char} (opened : openAfter false before = true)
    (since : List Char) : openAfter false (before ++ '>' :: since) = openAfter false since := by
  rw [openAfter_append, opened, openAfter_cons]
  rfl

/-- The end of a region gives the piece its region, and a separator begins a piece without one. -/
theorem hadRegion_concat {front : List Char} {c : Char} :
    HadRegion (front ++ [c]) ↔ c = '>' ∧ openAfter false front = true ∨
      HadRegion front ∧ ¬ (c = '-' ∧ openAfter false front = false) := by
  constructor
  · intro h
    obtain ⟨before, since, parts, opened, none⟩ := h
    obtain rfl | ⟨since, last, rfl⟩ := List.eq_nil_or_concat since
    · obtain ⟨rfl, same⟩ := List.append_inj' parts rfl
      exact .inl ⟨(List.cons.inj same).1, opened⟩
    · rw [List.concat_eq_append] at parts none
      rw [← List.cons_append, ← List.append_assoc] at parts
      obtain ⟨rfl, same⟩ := List.append_inj' parts rfl
      obtain rfl := (List.cons.inj same).1
      rw [separators_concat, Nat.add_eq_zero_iff] at none
      refine .inr ⟨⟨before, since, rfl, opened, none.1⟩, fun separator => ?_⟩
      rw [openAfter_close opened] at separator
      rw [if_pos separator] at none
      exact absurd none.2 Nat.one_ne_zero
  · intro h
    obtain ⟨rfl, opened⟩ | ⟨⟨before, since, rfl, opened, none⟩, text⟩ := h
    · exact ⟨front, [], rfl, opened, rfl⟩
    · refine ⟨before, since ++ [c], by simp, opened, ?_⟩
      rw [openAfter_close opened] at text
      rw [separators_concat, none, if_neg text]

theorem wellBracketed_concat {front : List Char} {c : Char} :
    WellBracketed (front ++ [c]) ↔ WellBracketed front ∧ ∀ fault, ¬ Offends front c fault := by
  constructor
  · intro h
    constructor
    · intro front' c' back fault parts
      exact h front' c' (back ++ [c]) fault (by rw [parts]; simp)
    · intro fault
      exact h front c [] fault rfl
  · intro h front' c' back fault parts
    obtain ⟨earlier, last⟩ := h
    obtain rfl | ⟨back, d, rfl⟩ := List.eq_nil_or_concat back
    · obtain ⟨rfl, same⟩ := List.append_inj' parts rfl
      obtain rfl := (List.cons.inj same).1
      exact last fault
    · rw [List.concat_eq_append, ← List.cons_append, ← List.append_assoc] at parts
      obtain ⟨rfl, -⟩ := List.append_inj' parts rfl
      exact earlier front' c' back fault rfl

/-! ### Walking a text -/

/-- Where a character leads, when it is not a bracket out of place: a separator begins a new
piece. -/
def advance (region : Region) (c : Char) : Option Region :=
  if c = '-' ∧ (region == .inside) = false then some .before else enter region c

/-- Where a text leads. -/
def scan (region : Region) (cs : List Char) : Option Region :=
  cs.foldlM advance region

theorem scan_cons (region : Region) (c : Char) (cs : List Char) :
    scan region (c :: cs) = (advance region c).bind (scan · cs) :=
  List.foldlM_cons

theorem scan_append (region : Region) (cs ds : List Char) :
    scan region (cs ++ ds) = (scan region cs).bind (scan · ds) :=
  List.foldlM_append

theorem scan_concat (region : Region) (cs : List Char) (c : Char) :
    scan region (cs ++ [c]) = (scan region cs).bind (advance · c) := by
  have last (place : Region) : scan place [c] = advance place c := by simp [scan]
  simp only [scan_append, last]

theorem cut_cons_eq_error_iff {region : Region} {c : Char} {cs : List Char} {fault : Fault} :
    cut region (c :: cs) = .error fault ↔
      advance region c = none ∧ fault = misplaced region c ∨
        ∃ next, advance region c = some next ∧ cut next cs = .error fault := by
  rw [cut_cons, advance]
  split
  · simp [map_eq_error_iff]
  · cases enter region c with
    | none => simp [eq_comm]
    | some next =>
      cases isBracket c with
      | true => simp
      | false => simp [map_eq_error_iff]

/-- Cutting stops at the first character that leads nowhere. -/
theorem cut_eq_error_iff {region : Region} {cs : List Char} {fault : Fault} :
    cut region cs = .error fault ↔ ∃ front c back place, cs = front ++ c :: back ∧
      scan region front = some place ∧ advance place c = none ∧ fault = misplaced place c := by
  induction cs generalizing region with
  | nil => simp [cut]
  | cons c cs ih =>
    rw [cut_cons_eq_error_iff]
    constructor
    · intro h
      obtain ⟨stuck, rfl⟩ | ⟨next, step, later⟩ := h
      · exact ⟨[], c, cs, region, rfl, rfl, stuck, rfl⟩
      · obtain ⟨front, d, back, place, rfl, walked, stuck⟩ := ih.1 later
        refine ⟨c :: front, d, back, place, rfl, ?_, stuck⟩
        rw [scan_cons, step]
        exact walked
    · intro h
      obtain ⟨front, d, back, place, parts, walked, stuck⟩ := h
      obtain _ | ⟨first, front⟩ := front
      · obtain ⟨rfl, rfl⟩ := List.cons.inj parts
        obtain rfl := Option.some.inj walked
        exact .inl stuck
      · obtain ⟨rfl, rfl⟩ := List.cons.inj parts
        rw [scan_cons, Option.bind_eq_some_iff] at walked
        obtain ⟨next, step, walked⟩ := walked
        exact .inr ⟨next, step, ih.2 ⟨front, d, back, place, rfl, walked, stuck⟩⟩

/-- A character that is no bracket leads on in its place, unless it is a separator. -/
theorem advance_text {region : Region} {c : Char} (text : isBracket c = false)
    (inner : c = '-' → region = .inside) : advance region c = some region := by
  rw [advance, if_neg ?_, enter_plain text]
  intro separator
  rw [inner separator.1] at separator
  exact absurd separator.2 (by decide)

theorem advance_separator {region : Region} (outside : region ≠ .inside) :
    advance region '-' = some .before :=
  if_pos ⟨rfl, beq_eq_false_iff_ne.2 outside⟩

/-- A character is a bracket, a separator, or text of its piece. -/
theorem char_cases (region : Region) (c : Char) :
    c = '<' ∨ c = '>' ∨ c = '-' ∧ region ≠ .inside ∨
      isBracket c = false ∧ (c = '-' → region = .inside) := by
  by_cases left : c = '<'
  · exact .inl left
  by_cases right : c = '>'
  · exact .inr (.inl right)
  have text : isBracket c = false := by simp [isBracket, left, right]
  by_cases inner : c = '-' → region = .inside
  · exact .inr (.inr (.inr ⟨text, inner⟩))
  · exact .inr (.inr (.inl (Classical.not_imp.1 inner)))

/-! ### What a place tells -/

/-- What the place at the end of a text tells of the text. -/
structure Stands (front : List Char) (place : Region) : Prop where
  inside_iff : place = .inside ↔ openAfter false front = true
  after_iff : place = .after ↔ openAfter false front = false ∧ HadRegion front

theorem stands_nil : Stands [] .before := by
  constructor
  · simp [openAfter]
  · simp [openAfter, HadRegion]

theorem stands_concat {front : List Char} {c : Char} {place next : Region} (h : Stands front place)
    (step : advance place c = some next) : Stands (front ++ [c]) next := by
  obtain ⟨inside, after⟩ := h
  have closed (outside : place ≠ .inside) : openAfter false front = false := by
    rw [← Bool.not_eq_true, ← inside]
    exact outside
  rcases char_cases place c with rfl | rfl | ⟨rfl, outside⟩ | ⟨text, inner⟩
  · cases place <;> cases step
    have closed := closed (by decide)
    constructor
    · simp [openAfter_concat, openNext, closed]
    · simp [openAfter_concat, openNext, closed]
  · cases place <;> cases step
    have opened := inside.1 rfl
    constructor
    · simp [openAfter_concat, openNext, opened]
    · simp [openAfter_concat, openNext, hadRegion_concat, opened]
  · obtain rfl := Option.some.inj ((advance_separator outside).symm.trans step)
    have closed := closed outside
    constructor
    · simp [openAfter_concat, openNext, closed]
    · simp [hadRegion_concat, closed]
  · obtain rfl := Option.some.inj ((advance_text text inner).symm.trans step)
    have unclosing : c ≠ '>' := by
      rintro rfl
      exact absurd text (by decide)
    have unseparated : ¬ (c = '-' ∧ openAfter false front = false) := by
      rintro ⟨separator, closed⟩
      rw [inside.1 (inner separator)] at closed
      cases closed
    constructor
    · rw [openAfter_concat, openNext_plain text, inside]
    · rw [openAfter_concat, openNext_plain text, hadRegion_concat, after]
      simp [unclosing, unseparated]

/-- The place that a text leads to tells of the text. -/
theorem stands_of_scan {front : List Char} {place : Region} (h : scan .before front = some place) :
    Stands front place := by
  induction front using List.reverseRecOn generalizing place with
  | nil =>
    obtain rfl := Option.some.inj h
    exact stands_nil
  | append_singleton front c ih =>
    rw [scan_concat, Option.bind_eq_some_iff] at h
    obtain ⟨middle, walked, step⟩ := h
    exact stands_concat (ih walked) step

/-- A bracket is out of place when it leads nowhere from the place before it. -/
theorem offends_iff {front : List Char} {place : Region} (h : Stands front place) {c : Char}
    {fault : Fault} :
    Offends front c fault ↔ advance place c = none ∧ fault = misplaced place c := by
  obtain ⟨inside, after⟩ := h
  constructor
  · intro h
    cases h with
    | nested opened =>
      obtain rfl := inside.2 opened
      exact ⟨rfl, rfl⟩
    | second closed had =>
      obtain rfl := after.2 ⟨closed, had⟩
      exact ⟨rfl, rfl⟩
    | unmatched closed =>
      cases place with
      | before => exact ⟨rfl, rfl⟩
      | inside => exact absurd (inside.1 rfl) (by simp [closed])
      | after => exact ⟨rfl, rfl⟩
  · intro h
    obtain ⟨stuck, rfl⟩ := h
    rcases char_cases place c with rfl | rfl | ⟨rfl, outside⟩ | ⟨text, inner⟩
    · cases place with
      | before => nomatch stuck
      | inside => exact .nested (inside.1 rfl)
      | after => exact .second (after.1 rfl).1 (after.1 rfl).2
    · cases place with
      | before => exact .unmatched (Bool.not_eq_true _ ▸ mt inside.2 nofun)
      | inside => nomatch stuck
      | after => exact .unmatched (after.1 rfl).1
    · nomatch (advance_separator outside).symm.trans stuck
    · nomatch (advance_text text inner).symm.trans stuck

/-- A text leads somewhere when all its brackets are in place. -/
theorem wellBracketed_iff {front : List Char} :
    WellBracketed front ↔ ∃ place, scan .before front = some place := by
  induction front using List.reverseRecOn with
  | nil => exact ⟨fun _ => ⟨.before, rfl⟩, fun _ front c back fault parts => by simp at parts⟩
  | append_singleton front c ih =>
    rw [wellBracketed_concat, ih, scan_concat]
    constructor
    · intro h
      obtain ⟨⟨place, walked⟩, inPlace⟩ := h
      rw [walked]
      refine Option.ne_none_iff_exists'.1 fun stuck => ?_
      exact inPlace _ ((offends_iff (stands_of_scan walked)).2 ⟨stuck, rfl⟩)
    · intro h
      obtain ⟨next, walked⟩ := h
      obtain ⟨place, walked, step⟩ := Option.bind_eq_some_iff.1 walked
      refine ⟨⟨place, walked⟩, fun fault offends => ?_⟩
      obtain ⟨stuck, -⟩ := (offends_iff (stands_of_scan walked)).1 offends
      nomatch step.symm.trans stuck

/-- Cutting fails at the first bracket out of place, with its fault. -/
theorem cut_eq_error_iff_firstOffence {cs : List Char} {fault : Fault} :
    cut .before cs = .error fault ↔ FirstOffence cs fault := by
  rw [cut_eq_error_iff, FirstOffence]
  refine exists_congr fun front => exists₂_congr fun c back => ?_
  rw [wellBracketed_iff]
  constructor
  · intro h
    obtain ⟨place, parts, walked, stuck⟩ := h
    exact ⟨parts, ⟨place, walked⟩, (offends_iff (stands_of_scan walked)).2 stuck⟩
  · intro h
    obtain ⟨parts, ⟨place, walked⟩, offends⟩ := h
    exact ⟨place, parts, walked, (offends_iff (stands_of_scan walked)).1 offends⟩

/-! ### Splitting -/

theorem split_of_firstOffence {template : String} {fault : Fault}
    (h : FirstOffence template.toList fault) : split template = .error fault := by
  have stopped := cut_eq_error_iff_firstOffence.2 h
  rw [split_eq, pieces, stopped]
  rfl

theorem walks_of_no_firstOffence {cs : List Char} (h : ∀ fault, ¬ FirstOffence cs fault) :
    Walks .before (rawPieces false cs) := by
  cases found : cut .before cs with
  | error fault => exact absurd (cut_eq_error_iff_firstOffence.1 found) (h fault)
  | ok pieces => exact (cut_eq_ok_iff.1 found).1

/-- A text whose characters all stay in a place stays there. -/
theorem scan_stay {region : Region} {cs : List Char}
    (h : ∀ c ∈ cs, advance region c = some region) : scan region cs = some region := by
  induction cs with
  | nil => rfl
  | cons c cs ih =>
    obtain ⟨first, rest⟩ := List.forall_mem_cons.1 h
    rw [scan_cons, first, Option.bind_some, ih rest]

/-- After a separator one region may follow, whatever stands before the separator. -/
theorem scan_region {front text inner after : List Char} (h : WellBracketed front)
    (closed : openAfter false front = false) (plain : Plain text) (plainInner : Plain inner)
    (plainAfter : Plain after) (single : '-' ∉ after) :
    scan .before (front ++ '-' :: text ++ '<' :: inner ++ '>' :: after) = some .after := by
  obtain ⟨place, walked⟩ := wellBracketed_iff.1 h
  have outside : place ≠ .inside := fun inside => by
    rw [(stands_of_scan walked).inside_iff.1 inside] at closed
    nomatch closed
  have before : scan .before text = some .before := scan_stay fun c hc => by
    by_cases separator : c = '-'
    · subst separator
      exact advance_separator nofun
    · exact advance_text (plain c hc) fun h => absurd h separator
  have inside : scan .inside inner = some .inside := scan_stay fun c hc =>
    advance_text (plainInner c hc) fun _ => rfl
  have last : scan .after after = some .after := scan_stay fun c hc =>
    advance_text (plainAfter c hc) fun h => absurd (h ▸ hc) single
  rw [List.append_assoc, List.append_assoc, scan_append, walked, Option.bind_some,
    List.cons_append, scan_cons, advance_separator outside, Option.bind_some, scan_append, before,
    Option.bind_some]
  show scan .inside (inner ++ '>' :: after) = _
  rw [scan_append, inside]
  exact last

/-- **Splitting any template.** The first bracket out of place is the fault, whatever follows it. If
no bracket is out of place, the pieces between the separators count, without a last one of nothing
but brackets: three of them are the fields, without their brackets and the gaps at their ends, and
any other number is the fault. After each separator one region is allowed again, and no second
one. -/
theorem split_exact :
    (∀ template fault, FirstOffence template.toList fault → split template = .error fault) ∧
    (∀ template, (∀ fault, ¬ FirstOffence template.toList fault) →
      (∀ raw : Triple (List Char), dropBareLast (rawPieces false template.toList) = raw.toList →
        split template = .ok ((raw.map textOf).map String.ofList)) ∧
      ((dropBareLast (rawPieces false template.toList)).length ≠ 3 → split template =
        .error (.fieldCount (dropBareLast (rawPieces false template.toList)).length))) ∧
    ∀ front text inner after, WellBracketed front → openAfter false front = false → Plain text →
      Plain inner → Plain after → '-' ∉ after →
        WellBracketed (front ++ '-' :: text ++ '<' :: inner ++ '>' :: after) ∧
          ∀ rest, split (String.ofList
            (front ++ '-' :: text ++ '<' :: inner ++ '>' :: after ++ '<' :: rest)) =
              .error .unexpectedBracket := by
  refine ⟨fun template fault => split_of_firstOffence, fun template inPlace => ⟨?_, ?_⟩, ?_⟩
  · intro raw three
    exact split_eq_ok_iff.2 ⟨walks_of_no_firstOffence inPlace, raw, three, rfl⟩
  · intro count
    exact split_of_count (walks_of_no_firstOffence inPlace) count
  · intro front text inner after h closed plain plainInner plainAfter single
    have walked := scan_region h closed plain plainInner plainAfter single
    have allowed := wellBracketed_iff.2 ⟨_, walked⟩
    refine ⟨allowed, fun rest => split_of_firstOffence ?_⟩
    rw [String.toList_ofList]
    exact ⟨_, '<', rest, rfl, allowed, (offends_iff (stands_of_scan walked)).2 ⟨rfl, rfl⟩⟩

/-- A second region in a piece, a template whose middle piece is of blanks and whose last region
stays open, one piece too few, and a region after a separator. -/
theorem split_exact_cases :
    (FirstOffence "<YEAR><+1>-01>".toList .unexpectedBracket ∧
      split "<YEAR><+1>-01>" = .error .unexpectedBracket) ∧
    ((∀ fault, ¬ FirstOffence "<YEAR - 1>x- -<DAY-".toList fault) ∧
      split "<YEAR - 1>x- -<DAY-" = .ok ⟨"YEAR - 1x", "", "DAY-"⟩) ∧
    ((∀ fault, ¬ FirstOffence "2024-01-<>".toList fault) ∧
      split "2024-01-<>" = .error (.fieldCount 2)) ∧
    WellBracketed "<YEAR>-<DAY>".toList ∧
      split "<YEAR>-<DAY><" = .error .unexpectedBracket := by
  have offence : FirstOffence "<YEAR><+1>-01>".toList .unexpectedBracket :=
    cut_eq_error_iff_firstOffence.1 rfl
  have inPlace (template : String) (pieces : List (List Char))
      (h : cut .before template.toList = .ok pieces) (fault : Fault) :
      ¬ FirstOffence template.toList fault := fun offence => by
    rw [← cut_eq_error_iff_firstOffence, h] at offence
    cases offence
  have three := inPlace "<YEAR - 1>x- -<DAY-" _ rfl
  have two := inPlace "2024-01-<>" _ rfl
  obtain ⟨allowed, stopped⟩ := split_exact.2.2 "<YEAR>".toList [] "DAY".toList []
    (wellBracketed_iff.2 ⟨_, rfl⟩) rfl nofun (by simp [Plain, isBracket]) nofun nofun
  exact ⟨⟨offence, split_exact.1 _ _ offence⟩,
    ⟨three, (split_exact.2.1 _ three).1
      ⟨"<YEAR - 1>x".toList, " ".toList, "<DAY-".toList⟩ (by decide +kernel)⟩,
    ⟨two, (split_exact.2.1 _ two).2 (by decide +kernel)⟩, allowed, stopped []⟩

end Almanac.Template
