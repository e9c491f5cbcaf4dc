import Almanac.Success
import Almanac.Template.Piece
import Mathlib.Data.List.TakeWhile

/-! The regions and pieces of a text.

Seen from the left, a region runs from a `<` outside any region to the next `>`, and a `-` outside
regions separates two pieces. This is all that `openAfter`, `separators` and `rawPieces` say, of any
text: they find no fault with brackets and leave them where they are. `cut` does find faults.
`cut_eq_ok_iff` says that it succeeds when it can walk every piece, and that its result is then the
pieces without their brackets; and a piece can be walked when it has at most one region, which only
at the end of the text may be left open (`oneRegion_iff`). -/
namespace Almanac.Template

/-! ### Regions, separators and pieces -/

def isBracket (c : Char) : Bool :=
  c == '<' || c == '>'

/-- Whether a region is open after a character: outside, a `<` opens one, and inside, a `>` closes
it. -/
def openNext (inside : Bool) (c : Char) : Bool :=
  if inside then c != '>' else c == '<'

/-- Whether a region is open after a text. -/
def openAfter (inside : Bool) (cs : List Char) : Bool :=
  cs.foldl openNext inside

/-- How many `-` stand outside regions. -/
def separators : Bool → List Char → Nat
  | _, [] => 0
  | inside, c :: cs =>
    (if c = '-' ∧ inside = false then 1 else 0) + separators (openNext inside c) cs

/-- A text cut at every `-` outside regions, brackets and all. -/
def rawPieces : Bool → List Char → List (List Char)
  | _, [] => [[]]
  | inside, c :: cs =>
    if c = '-' ∧ inside = false then [] :: rawPieces false cs
    else addToFirst c (rawPieces (openNext inside c) cs)

/-- A text without its brackets. -/
def unbracketed (cs : List Char) : List Char :=
  cs.filter (!isBracket ·)

theorem openAfter_cons (inside : Bool) (c : Char) (cs : List Char) :
    openAfter inside (c :: cs) = openAfter (openNext inside c) cs := rfl

theorem openAfter_append (inside : Bool) (cs ds : List Char) :
    openAfter inside (cs ++ ds) = openAfter (openAfter inside cs) ds :=
  List.foldl_append

theorem separators_append (inside : Bool) (cs ds : List Char) :
    separators inside (cs ++ ds) =
      separators inside cs + separators (openAfter inside cs) ds := by
  induction cs generalizing inside with
  | nil => exact (Nat.zero_add _).symm
  | cons c cs ih => rw [List.cons_append, separators, separators, ih, openAfter_cons, Nat.add_assoc]

theorem exists_rawPieces (inside : Bool) (cs : List Char) :
    ∃ first rest, rawPieces inside cs = first :: rest := by
  induction cs generalizing inside with
  | nil => exact ⟨[], [], rfl⟩
  | cons c cs ih =>
    unfold rawPieces
    split
    · exact ⟨[], _, rfl⟩
    · obtain ⟨first, rest, h⟩ := ih (openNext inside c)
      exact ⟨c :: first, rest, by rw [h]; rfl⟩

/-- One piece more than separators. -/
theorem length_rawPieces (inside : Bool) (cs : List Char) :
    (rawPieces inside cs).length = separators inside cs + 1 := by
  induction cs generalizing inside with
  | nil => rfl
  | cons c cs ih =>
    unfold rawPieces separators
    split
    · next h =>
      obtain ⟨rfl, rfl⟩ := h
      rw [List.length_cons, ih]
      show _ = 1 + separators false cs + 1
      omega
    · obtain ⟨first, rest, h⟩ := exists_rawPieces (openNext inside c) cs
      have := ih (openNext inside c)
      rw [h] at this ⊢
      simp only [addToFirst, List.length_cons] at this ⊢
      omega

/-! ### Walking a piece -/

/-- Where a character of a piece leads, when it is not a bracket out of place. -/
def enter : Region → Char → Option Region
  | .before, '<' => some .inside
  | .inside, '>' => some .after
  | region, c => if isBracket c then none else some region

/-- Where a piece leads. -/
def walk (region : Region) (piece : List Char) : Option Region :=
  piece.foldlM enter region

/-- The fault of a bracket out of place. -/
def misplaced : Region → Char → Fault
  | .inside, '<' => .nestedBracket
  | .after, '<' => .unexpectedBracket
  | _, _ => .unmatchedBracket

/-- Cutting goes by the character: a separator begins a new piece, a bracket changes the place and
is dropped, and any other character stays in its piece. -/
theorem cut_cons (region : Region) (c : Char) (cs : List Char) :
    cut region (c :: cs) =
      if c = '-' ∧ (region == .inside) = false then (cut .before cs).map ([] :: ·)
      else match enter region c with
        | none => .error (misplaced region c)
        | some next =>
          if isBracket c then cut next cs else (cut next cs).map (addToFirst c) := by
  by_cases left : c = '<'
  · subst left
    cases region <;> rfl
  by_cases right : c = '>'
  · subst right
    cases region <;> rfl
  have text : isBracket c = false := by simp [isBracket, left, right]
  cases region <;> simp [cut, enter, left, right, text]

/-- The places agree with the regions. -/
theorem openNext_of_enter {region next : Region} {c : Char} (h : enter region c = some next) :
    openNext (region == .inside) c = (next == .inside) := by
  by_cases left : c = '<'
  · subst left
    cases region with
    | before =>
      obtain rfl := Option.some.inj h
      rfl
    | inside => simp [enter, isBracket] at h
    | after => simp [enter, isBracket] at h
  by_cases right : c = '>'
  · subst right
    cases region with
    | before => simp [enter, isBracket] at h
    | inside =>
      obtain rfl := Option.some.inj h
      rfl
    | after => simp [enter, isBracket] at h
  have text : isBracket c = false := by simp [isBracket, left, right]
  have stay : next = region := by
    cases region <;> simpa [enter, left, right, text, eq_comm] using h
  subst stay
  cases next <;> simp [openNext, left, right]

theorem openNext_separator {inside : Bool} (h : inside = false) : openNext inside '-' = false := by
  subst h
  rfl

/-- Whether the pieces of a text can be walked, the first of them from a place inside it. -/
def Walks (region : Region) : List (List Char) → Prop
  | [] => False
  | first :: rest => (walk region first).isSome ∧ ∀ piece ∈ rest, (walk .before piece).isSome

theorem walks_before {pieces : List (List Char)} (h : pieces ≠ []) :
    Walks .before pieces ↔ ∀ piece ∈ pieces, (walk .before piece).isSome := by
  cases pieces with
  | nil => exact absurd rfl h
  | cons first rest => rw [List.forall_mem_cons, Walks]

theorem walks_addToFirst {region : Region} {c : Char} {pieces : List (List Char)}
    (h : pieces ≠ []) :
    Walks region (addToFirst c pieces) ↔ ∃ next, enter region c = some next ∧ Walks next pieces := by
  obtain _ | ⟨first, rest⟩ := pieces
  · exact absurd rfl h
  · simp only [addToFirst, Walks, walk, List.foldlM_cons]
    cases enter region c <;> simp

theorem map_unbracketed_addToFirst {c : Char} {pieces : List (List Char)} (h : pieces ≠ []) :
    (addToFirst c pieces).map unbracketed =
      if isBracket c then pieces.map unbracketed else addToFirst c (pieces.map unbracketed) := by
  obtain _ | ⟨first, rest⟩ := pieces
  · exact absurd rfl h
  · cases text : isBracket c <;> simp [addToFirst, unbracketed, text]

theorem rawPieces_ne_nil (inside : Bool) (cs : List Char) : rawPieces inside cs ≠ [] := by
  obtain ⟨first, rest, h⟩ := exists_rawPieces inside cs
  rw [h]
  nofun

/-- **Cutting a text.** The text is cut when every piece can be walked, into the pieces without
their brackets. -/
theorem cut_eq_ok_iff {region : Region} {cs : List Char} {found : List (List Char)} :
    cut region cs = .ok found ↔ Walks region (rawPieces (region == .inside) cs) ∧
      found = (rawPieces (region == .inside) cs).map unbracketed := by
  induction cs generalizing region found with
  | nil =>
    rw [cut, Except.ok.injEq, eq_comm]
    exact ⟨fun h => ⟨⟨rfl, nofun⟩, h⟩, And.right⟩
  | cons c cs ih =>
    have mapped (next : Region) (f : List (List Char) → List (List Char)) :
        (cut next cs).map f = .ok found ↔ Walks next (rawPieces (next == .inside) cs) ∧
          found = f ((rawPieces (next == .inside) cs).map unbracketed) := by
      rw [map_eq_ok_iff]
      constructor
      · intro h
        obtain ⟨rest, h, rfl⟩ := h
        obtain ⟨walks, rfl⟩ := ih.1 h
        exact ⟨walks, rfl⟩
      · intro h
        obtain ⟨walks, rfl⟩ := h
        exact ⟨_, ih.2 ⟨walks, rfl⟩, rfl⟩
    rw [cut_cons, rawPieces]
    split
    · rw [mapped, walks_before (rawPieces_ne_nil _ cs)]
      exact and_congr_left' (and_iff_right rfl).symm
    · have ne := rawPieces_ne_nil (openNext (region == .inside) c) cs
      rw [walks_addToFirst ne, map_unbracketed_addToFirst ne]
      cases h : enter region c with
      | none => simp
      | some next =>
        rw [openNext_of_enter h]
        simp only [Option.some.injEq, exists_eq_left']
        split
        · exact ih
        · exact mapped next (addToFirst c)

/-! ### Pieces with one region -/

/-- A text without brackets. -/
def Plain (cs : List Char) : Prop :=
  ∀ c ∈ cs, isBracket c = false

/-- No bracket, or one `<` and after it one `>`. -/
inductive OneRegion : List Char → Prop where
  | plain {text} : Plain text → OneRegion text
  | region {front middle back} : Plain front → Plain middle → Plain back →
      OneRegion (front ++ '<' :: middle ++ '>' :: back)

theorem enter_plain {region : Region} {c : Char} (h : isBracket c = false) :
    enter region c = some region := by
  have left : c ≠ '<' := by
    intro eq
    rw [eq] at h
    nomatch h
  have right : c ≠ '>' := by
    intro eq
    rw [eq] at h
    nomatch h
  cases region <;> simp [enter, left, right, h]

theorem openNext_plain {inside : Bool} {c : Char} (h : isBracket c = false) :
    openNext inside c = inside := by
  cases inside with
  | false =>
    have outside : enter .before c = some .before := enter_plain h
    exact openNext_of_enter outside
  | true =>
    have within : enter .inside c = some .inside := enter_plain h
    exact openNext_of_enter within

theorem enter_after {c : Char} (h : isBracket c = true) : enter .after c = none := by
  simp [enter, h]

theorem walk_cons (region : Region) (c : Char) (cs : List Char) :
    walk region (c :: cs) = (enter region c).bind (walk · cs) :=
  List.foldlM_cons

theorem walk_append (region : Region) (cs ds : List Char) :
    walk region (cs ++ ds) = (walk region cs).bind (walk · ds) :=
  List.foldlM_append

theorem walk_plain {region : Region} {cs : List Char} (h : Plain cs) :
    walk region cs = some region := by
  induction cs with
  | nil => rfl
  | cons c cs ih =>
    rw [walk_cons, enter_plain (h c (List.mem_cons_self ..)), Option.bind_some]
    exact ih fun d hd => h d (List.mem_cons_of_mem c hd)

theorem plain_of_walk_after {cs : List Char} {next : Region} (h : walk .after cs = some next) :
    Plain cs := by
  induction cs with
  | nil => exact nofun
  | cons c cs ih =>
    cases text : isBracket c
    · rw [walk_cons, enter_plain text] at h
      exact List.forall_mem_cons.2 ⟨text, ih h⟩
    · rw [walk_cons, enter_after text] at h
      nomatch h

theorem exists_close_of_walk_inside {cs : List Char} {next : Region}
    (h : walk .inside cs = some next) (closed : next ≠ .inside) :
    ∃ middle back, cs = middle ++ '>' :: back ∧ Plain middle ∧ Plain back := by
  induction cs with
  | nil => exact absurd (Option.some.inj h).symm closed
  | cons c cs ih =>
    cases text : isBracket c
    · rw [walk_cons, enter_plain text] at h
      obtain ⟨middle, back, rfl, hm, hb⟩ := ih h
      exact ⟨c :: middle, back, rfl, List.forall_mem_cons.2 ⟨text, hm⟩, hb⟩
    · obtain rfl | rfl : c = '<' ∨ c = '>' := by simpa [isBracket] using text
      · nomatch h
      · exact ⟨[], cs, rfl, nofun, plain_of_walk_after h⟩

theorem oneRegion_of_walk {cs : List Char} {next : Region} (h : walk .before cs = some next)
    (closed : next ≠ .inside) : OneRegion cs := by
  induction cs with
  | nil => exact .plain nofun
  | cons c cs ih =>
    cases text : isBracket c
    · rw [walk_cons, enter_plain text] at h
      cases ih h with
      | plain hp => exact .plain (List.forall_mem_cons.2 ⟨text, hp⟩)
      | region hf hm hb => exact .region (List.forall_mem_cons.2 ⟨text, hf⟩) hm hb
    · obtain rfl | rfl : c = '<' ∨ c = '>' := by simpa [isBracket] using text
      · obtain ⟨middle, back, rfl, hm, hb⟩ := exists_close_of_walk_inside h closed
        show OneRegion ([] ++ '<' :: middle ++ '>' :: back)
        exact .region nofun hm hb
      · nomatch h

theorem walk_of_oneRegion {cs : List Char} (h : OneRegion cs) :
    walk .before cs = some .before ∨ walk .before cs = some .after := by
  cases h with
  | plain h => exact .inl (walk_plain h)
  | region hf hm hb =>
    right
    rw [walk_append, walk_append, walk_plain hf, Option.bind_some, walk_cons]
    show (walk .inside _).bind _ = _
    rw [walk_plain hm, Option.bind_some, walk_cons]
    exact walk_plain hb

theorem openAfter_of_walk {region next : Region} {cs : List Char}
    (h : walk region cs = some next) : openAfter (region == .inside) cs = (next == .inside) := by
  induction cs generalizing region with
  | nil =>
    obtain rfl := Option.some.inj h
    rfl
  | cons c cs ih =>
    rw [walk_cons, Option.bind_eq_some_iff] at h
    obtain ⟨middle, step, rest⟩ := h
    rw [openAfter_cons, openNext_of_enter step, ih rest]

/-- A piece has at most one region when it can be walked and does not end inside one. -/
theorem oneRegion_iff {piece : List Char} :
    OneRegion piece ↔ (walk .before piece).isSome ∧ openAfter false piece = false := by
  constructor
  · intro h
    rcases walk_of_oneRegion h with walk | walk
    · exact ⟨by rw [walk]; rfl, openAfter_of_walk walk⟩
    · exact ⟨by rw [walk]; rfl, openAfter_of_walk walk⟩
  · intro h
    obtain ⟨some, closed⟩ := h
    obtain ⟨next, walk⟩ := Option.isSome_iff_exists.1 some
    refine oneRegion_of_walk walk fun inside => ?_
    have := openAfter_of_walk walk
    rw [inside] at this
    exact Bool.noConfusion (closed.symm.trans this)

/-- Only the last piece can be left open, and it is open when the text is. -/
theorem closed_rawPieces {inside : Bool} {cs first : List Char} {rest : List (List Char)}
    (h : rawPieces inside cs = first :: rest) (closed : openAfter inside cs = false) :
    openAfter inside first = false ∧ ∀ piece ∈ rest, openAfter false piece = false := by
  induction cs generalizing inside first rest with
  | nil =>
    obtain ⟨rfl, rfl⟩ := List.cons.inj h
    exact ⟨closed, nofun⟩
  | cons c cs ih =>
    rw [rawPieces] at h
    split at h
    · next separator =>
      obtain ⟨rfl, rfl⟩ := List.cons.inj h
      obtain ⟨rfl, rfl⟩ := separator
      obtain ⟨first, rest, pieces⟩ := exists_rawPieces false cs
      rw [pieces]
      exact ⟨rfl, List.forall_mem_cons.2 (ih pieces closed)⟩
    · obtain ⟨first', rest', pieces⟩ := exists_rawPieces (openNext inside c) cs
      rw [pieces] at h
      obtain ⟨rfl, rfl⟩ := List.cons.inj h
      obtain ⟨head, tail⟩ := ih pieces closed
      exact ⟨head, tail⟩

/-! ### Texts put together -/

theorem rawPieces_append_separator {inside : Bool} {cs : List Char}
    (closed : openAfter inside cs = false) (ds : List Char) :
    rawPieces inside (cs ++ '-' :: ds) = rawPieces inside cs ++ rawPieces false ds := by
  induction cs generalizing inside with
  | nil =>
    obtain rfl : inside = false := closed
    rfl
  | cons c cs ih =>
    rw [List.cons_append, rawPieces, rawPieces]
    split
    · next h =>
      obtain ⟨rfl, rfl⟩ := h
      have closed : openAfter false cs = false := closed
      rw [ih closed, List.cons_append]
    · obtain ⟨first, rest, pieces⟩ := exists_rawPieces (openNext inside c) cs
      rw [ih closed, pieces]
      rfl

/-- Inside a region a `-` is text of the last piece. -/
theorem getLast?_rawPieces_append {inside : Bool} {cs : List Char}
    (opened : openAfter inside cs = true) :
    ∃ piece, (rawPieces inside (cs ++ ['-'])).getLast? = some (piece ++ ['-']) := by
  induction cs generalizing inside with
  | nil =>
    obtain rfl : inside = true := opened
    exact ⟨[], rfl⟩
  | cons c cs ih =>
    rw [List.cons_append, rawPieces]
    split
    · next h =>
      obtain ⟨rfl, rfl⟩ := h
      have opened : openAfter false cs = true := opened
      obtain ⟨piece, last⟩ := ih opened
      obtain ⟨first, rest, pieces⟩ := exists_rawPieces false (cs ++ ['-'])
      refine ⟨piece, ?_⟩
      rw [pieces] at last ⊢
      rwa [List.getLast?_cons_cons]
    · obtain ⟨piece, last⟩ := ih opened
      obtain ⟨first, rest, pieces⟩ := exists_rawPieces (openNext inside c) (cs ++ ['-'])
      rw [pieces] at last ⊢
      cases rest with
      | nil =>
        obtain rfl := Option.some.inj last
        exact ⟨c :: piece, rfl⟩
      | cons second rest =>
        rw [List.getLast?_cons_cons] at last
        refine ⟨piece, ?_⟩
        rw [addToFirst, List.getLast?_cons_cons]
        exact last

/-- A region left open at the end is as good as closed. -/
theorem cut_append_close {region : Region} {cs : List Char}
    (opened : openAfter (region == .inside) cs = true) : cut region (cs ++ ['>']) = cut region cs := by
  induction cs generalizing region with
  | nil =>
    obtain rfl : region = .inside := by cases region <;> first | rfl | nomatch opened
    rfl
  | cons c cs ih =>
    rw [List.cons_append, cut_cons, cut_cons]
    split
    · next h =>
      rw [openAfter_cons, h.1, openNext_separator h.2] at opened
      have opened : openAfter (Region.before == .inside) cs = true := opened
      rw [ih opened]
    · cases h : enter region c with
      | none => rfl
      | some next =>
        rw [openAfter_cons, openNext_of_enter h] at opened
        dsimp only
        rw [ih opened]

/-- What stands before and after a `<` of a text that is cut: no region is open before it, and the
rest is cut from inside one. -/
theorem cut_at_open {region : Region} {front back : List Char} {found : List (List Char)}
    (h : cut region (front ++ '<' :: back) = .ok found) :
    openAfter (region == .inside) front = false ∧ ∃ rest, cut .inside back = .ok rest := by
  induction front generalizing region found with
  | nil =>
    cases region with
    | before => exact ⟨rfl, found, h⟩
    | inside => nomatch h
    | after => nomatch h
  | cons c front ih =>
    rw [List.cons_append, cut_cons] at h
    split at h
    · next separator =>
      obtain ⟨rest, h, -⟩ := map_eq_ok_iff.1 h
      rw [openAfter_cons, separator.1, openNext_separator separator.2]
      exact ih h
    · cases step : enter region c with
      | none =>
        rw [step] at h
        nomatch h
      | some next =>
        rw [step] at h
        rw [openAfter_cons, openNext_of_enter step]
        simp only at h
        split at h
        · exact ih h
        · obtain ⟨rest, h, -⟩ := map_eq_ok_iff.1 h
          exact ih h

end Almanac.Template
