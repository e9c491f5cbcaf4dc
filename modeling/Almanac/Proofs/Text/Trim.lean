import Almanac.Text.Blank
import Mathlib.Data.List.TakeWhile

/-! What trimming takes away.

A `Gap` is a text of blanks, maybe of none. Trimming takes a gap away at either end
(`exists_gaps`), it does not matter how long the gap was (`trim_gap_append`, `trim_append_gap`),
and nothing is left for a second time (`trim_trim`). -/
namespace Almanac.Text

/-- Blanks and nothing else. -/
def Gap (cs : List Char) : Prop :=
  ∀ c ∈ cs, isBlank c = true

theorem gap_reverse {cs : List Char} (h : Gap cs) : Gap cs.reverse :=
  fun c hc => h c (List.mem_reverse.1 hc)

theorem trimStart_gap_append {gap : List Char} (h : Gap gap) (cs : List Char) :
    trimStart (gap ++ cs) = trimStart cs :=
  List.dropWhile_append_of_pos h

theorem trimEnd_append_gap {gap : List Char} (h : Gap gap) (cs : List Char) :
    trimEnd (cs ++ gap) = trimEnd cs := by
  rw [trimEnd, List.reverse_append, List.dropWhile_append_of_pos (gap_reverse h)]
  rfl

theorem trimStart_eq_nil_iff {cs : List Char} : trimStart cs = [] ↔ Gap cs :=
  List.dropWhile_eq_nil_iff

/-- A gap in front does not matter. -/
theorem trim_gap_append {gap : List Char} (h : Gap gap) (cs : List Char) :
    trim (gap ++ cs) = trim cs := by
  rw [trim, trimStart_gap_append h]
  rfl

theorem trim_gap {gap : List Char} (h : Gap gap) : trim gap = [] := by
  rw [trim, trimStart_eq_nil_iff.2 h]
  rfl

/-- Nor does a gap at the end. -/
theorem trim_append_gap {gap : List Char} (h : Gap gap) (cs : List Char) :
    trim (cs ++ gap) = trim cs := by
  by_cases blank : Gap cs
  · rw [trim_gap_append blank, trim_gap h, trim_gap blank]
  · have word : trimStart cs ≠ [] := mt trimStart_eq_nil_iff.1 blank
    have front : trimStart (cs ++ gap) = trimStart cs ++ gap := by
      unfold trimStart at *
      rw [List.dropWhile_append, if_neg (by simpa using word)]
    rw [trim, front, trimEnd_append_gap h]
    rfl

/-- Trimming takes away two gaps. -/
theorem exists_gaps (cs : List Char) :
    ∃ front back, Gap front ∧ Gap back ∧ cs = front ++ trim cs ++ back := by
  refine ⟨cs.takeWhile isBlank, ((trimStart cs).reverse.takeWhile isBlank).reverse, ?_, ?_, ?_⟩
  · exact fun c hc => List.mem_takeWhile_imp hc
  · exact gap_reverse fun c hc => List.mem_takeWhile_imp hc
  · have back : (trimStart cs).reverse.takeWhile isBlank ++
        (trimStart cs).reverse.dropWhile isBlank = (trimStart cs).reverse :=
      List.takeWhile_append_dropWhile
    rw [List.append_assoc, trim, trimEnd, ← List.reverse_append, back, List.reverse_reverse]
    exact List.takeWhile_append_dropWhile.symm

theorem trim_eq_nil_iff {cs : List Char} : trim cs = [] ↔ Gap cs := by
  constructor
  · intro h
    obtain ⟨front, back, hf, hb, parts⟩ := exists_gaps cs
    rw [parts, h, List.append_nil]
    exact fun c hc => (List.mem_append.1 hc).elim (hf c) (hb c)
  · exact trim_gap

/-- A word without blanks at the front of a text is still there after trimming. -/
theorem isPrefix_trim {word cs : List Char} (visible : ∀ c ∈ word, isBlank c = false)
    (h : word <+: cs) : word <+: trim cs := by
  obtain ⟨rest, rfl⟩ := h
  obtain ⟨front, back, hf, hb, parts⟩ := exists_gaps (word ++ rest)
  have disjoint {gap : List Char} (hg : Gap gap) {c : Char} (hc : c ∈ word) : c ∉ gap := fun h => by
    cases (visible c hc).symm.trans (hg c h)
  have start : front = [] ∨ word = [] := by
    obtain _ | ⟨c, word⟩ := word
    · exact .inr rfl
    obtain _ | ⟨d, front⟩ := front
    · exact .inl rfl
    · obtain ⟨rfl, -⟩ := List.cons.inj parts
      exact absurd (List.mem_cons_self ..) (disjoint hf (List.mem_cons_self ..))
  obtain rfl | rfl := start
  · obtain ⟨more, within, -⟩ | ⟨gap, whole, behind⟩ := List.append_eq_append_iff.1 parts
    · exact ⟨more, within.symm⟩
    · obtain _ | ⟨c, gap⟩ := gap
      · exact ⟨[], (List.append_nil _).trans (whole.trans (List.append_nil _))⟩
      · have inWord : c ∈ word := by
          rw [whole]
          simp
        exact absurd (behind ▸ List.mem_cons_self ..) (disjoint hb inWord)
  · exact List.nil_prefix

/-- A trimmed text has nothing to trim. -/
theorem trim_trim (cs : List Char) : trim (trim cs) = trim cs := by
  obtain ⟨front, back, hf, hb, h⟩ := exists_gaps cs
  calc
    trim (trim cs) = trim (front ++ trim cs ++ back) := by
      rw [trim_append_gap hb, trim_gap_append hf]
    _ = trim cs := by rw [← h]

theorem length_trim_le (cs : List Char) : (trim cs).length ≤ cs.length := by
  obtain ⟨front, back, -, -, h⟩ := exists_gaps cs
  have := congrArg List.length h
  simp only [List.length_append] at this
  omega

/-- A trimmed text has no gaps at its ends. -/
theorem eq_nil_of_trim_eq_self {front core back : List Char} (hf : Gap front) (hb : Gap back)
    (h : trim (front ++ core ++ back) = front ++ core ++ back) : front = [] ∧ back = [] := by
  rw [trim_append_gap hb, trim_gap_append hf] at h
  have := congrArg List.length h
  have := length_trim_le core
  simp only [List.length_append] at *
  exact ⟨List.eq_nil_of_length_eq_zero (by omega), List.eq_nil_of_length_eq_zero (by omega)⟩

/-- A character at the end that is no blank stays there. -/
theorem getLast?_trim_append {c : Char} (h : isBlank c = false) (cs : List Char) :
    (trim (cs ++ [c])).getLast? = some c := by
  obtain ⟨front, back, hf, hb, eq⟩ := exists_gaps (cs ++ [c])
  have last : (front ++ trim (cs ++ [c]) ++ back).getLast? = some c := by
    rw [← eq, List.getLast?_concat]
  have visible {gap : List Char} (hg : Gap gap) : gap.getLast? ≠ some c := fun hc => by
    have := hg c (List.mem_of_getLast? hc)
    rw [h] at this
    nomatch this
  rw [List.getLast?_append, Option.or_eq_some_iff] at last
  obtain hc | ⟨-, last⟩ := last
  · exact absurd hc (visible hb)
  rw [List.getLast?_append, Option.or_eq_some_iff] at last
  obtain hc | ⟨-, hc⟩ := last
  · exact hc
  · exact absurd hc (visible hf)

end Almanac.Text
