import Almanac.Proofs.Text.Ascii
import Almanac.Proofs.Text.Trim
import Almanac.Template.Entry

/-! Which characters become the characters of a symbolic field.

Upper case is taken over all of Unicode, where one character may become several and characters far
from ASCII become ASCII letters: a dotless i becomes I, the letter y with a ring becomes Y and a
ring. None of this helps to write a field. `upper_eq_map` says that a text whose upper case holds
nothing but blanks, digits, signs and letters of the keywords is a text of ASCII characters and
blanks, and that its upper case is taken letter by letter. -/
namespace Almanac.Template

/-- A character that may stand in the upper case of a symbolic field. -/
def isFieldChar (c : Char) : Bool :=
  Text.isBlank c || c.isDigit || isOperator c || Field.all.any (·.keyword.toList.contains c)

/-! ### ASCII -/

theorem upperAscii_eq_toUpper {c : Char} (ascii : c.toNat < 128) :
    Text.upperAscii c = c.toUpper :=
  Text.of_ascii (P := fun c => Text.upperAscii c = c.toUpper) (by decide) ascii

theorem toUpper_of_beyond {c : Char} (beyond : 128 ≤ c.toNat) : c.toUpper = c := by
  have notLower : ¬ ('a'.val ≤ c.val ∧ c.val ≤ 'z'.val) := fun h => by
    have : c.toNat ≤ 122 := UInt32.le_iff_toNat_le.1 h.2
    omega
  exact dif_neg notLower

/-! ### Blanks -/

/-- The blanks, one by one. -/
theorem isBlank_cases {P : Char → Prop} (h : ∀ range ∈ Text.blankRanges,
      ∀ n ∈ List.range' range.1 (range.2 + 1 - range.1), P (Char.ofNat n)) {c : Char}
    (blank : Text.isBlank c = true) : P c := by
  obtain ⟨range, hr, hc⟩ := List.any_eq_true.1 blank
  simp only [Bool.and_eq_true, decide_eq_true_eq] at hc
  rw [← Char.ofNat_toNat c]
  exact h range hr _ (List.mem_range'_1.2 ⟨hc.1, by omega⟩)

/-- A blank is its own upper case. -/
theorem upperChar_of_isBlank {c : Char} (blank : Text.isBlank c = true) :
    Text.upperChar c = [c] :=
  isBlank_cases (P := fun c => Text.upperChar c = [c]) (by decide) blank

theorem toUpper_of_isBlank {c : Char} (blank : Text.isBlank c = true) : c.toUpper = c :=
  isBlank_cases (P := fun c => c.toUpper = c) (by decide) blank

/-! ### Digits, signs and letters -/

theorem isUpper_of_isDigit {c : Char} (h : c.isDigit = true) : c.isUpper = false :=
  Text.isDigit_cases (P := fun c => c.isUpper = false) (by decide) h

theorem isOperator_of_isDigit {c : Char} (h : c.isDigit = true) : isOperator c = false :=
  Text.isDigit_cases (P := fun c => isOperator c = false) (by decide) h

theorem isUpper_of_isBlank {c : Char} (h : Text.isBlank c = true) : c.isUpper = false :=
  isBlank_cases (P := fun c => c.isUpper = false) (by decide) h

theorem isOperator_of_isBlank {c : Char} (h : Text.isBlank c = true) : isOperator c = false :=
  isBlank_cases (P := fun c => isOperator c = false) (by decide) h

theorem eq_of_isOperator {c : Char} (h : isOperator c = true) : c = '+' ∨ c = '-' := by
  simpa [isOperator] using h

theorem isUpper_of_isOperator {c : Char} (h : isOperator c = true) : c.isUpper = false := by
  rcases eq_of_isOperator h with rfl | rfl <;> rfl

theorem upperChar_of_isDigit {c : Char} (h : c.isDigit = true) : Text.upperChar c = [c] :=
  Text.isDigit_cases (P := fun c => Text.upperChar c = [c]) (by decide) h

/-- What is true of the letters of every keyword. -/
theorem of_keyword {p : Char → Bool} (h : Field.all.all (·.keyword.toList.all p) = true)
    {field : Field} {c : Char} (hc : c ∈ field.keyword.toList) : p c = true :=
  List.all_eq_true.1 (List.all_eq_true.1 h field (Field.mem_all field)) c hc

theorem keyword_ascii {field : Field} {c : Char} (h : c ∈ field.keyword.toList) : c.toNat < 128 :=
  of_decide_eq_true (of_keyword (p := (decide <| ·.toNat < 128)) (by decide) h)

theorem isFieldChar_keyword {field : Field} {c : Char} (h : c ∈ field.keyword.toList) :
    isFieldChar c = true := by
  have : Field.all.any (·.keyword.toList.contains c) = true :=
    List.any_eq_true.2 ⟨field, Field.mem_all field, List.contains_iff_mem.2 h⟩
  rw [isFieldChar, this, Bool.or_true]

theorem isFieldChar_of_isBlank {c : Char} (h : Text.isBlank c = true) : isFieldChar c = true := by
  simp [isFieldChar, h]

theorem isFieldChar_of_isDigit {c : Char} (h : c.isDigit = true) : isFieldChar c = true := by
  simp [isFieldChar, h]

theorem isFieldChar_of_isOperator {c : Char} (h : isOperator c = true) : isFieldChar c = true := by
  simp [isFieldChar, h]

/-! ### Characters beyond ASCII -/

theorem upperSpecials_foreign :
    ∀ special ∈ Text.upperSpecials, ∃ n ∈ special.2, isFieldChar (Char.ofNat n) = false := by
  decide +kernel

/-- A run that leads beyond ASCII and past the blanks, or moves one character alone to a letter of
no keyword. -/
def leadsAway (r : Text.CaseRun) : Bool :=
  128 ≤ r.first + r.shift && Text.blankRanges.all (fun (first, last) =>
      r.last + r.shift < first || last < r.first + r.shift) ||
    r.first == r.last && !isFieldChar (Char.ofNat (r.first + r.shift).toNat)

theorem upperRuns_leadAway : ∀ r ∈ Text.upperRuns, leadsAway r = true := by
  decide +kernel

/-- Beyond ASCII, only the blanks stand in a symbolic field. -/
theorem isFieldChar_eq_false {c : Char} (beyond : 128 ≤ c.toNat) (visible : Text.isBlank c = false) :
    isFieldChar c = false := by
  have digit : c.isDigit = false := by
    rw [Bool.eq_false_iff, Ne, Char.isDigit_iff_toNat]
    have : '9'.toNat = 57 := rfl
    omega
  have sign : isOperator c = false := by
    rw [Bool.eq_false_iff]
    intro h
    simp only [isOperator, Bool.or_eq_true, beq_iff_eq] at h
    rcases h with rfl | rfl
    · exact absurd beyond (by decide)
    · exact absurd beyond (by decide)
  have letter : Field.all.any (·.keyword.toList.contains c) = false := by
    rw [List.any_eq_false]
    intro field _ hc
    have := keyword_ascii (List.contains_iff_mem.1 hc)
    omega
  rw [isFieldChar, visible, digit, sign, letter]
  rfl

theorem isFieldChar_move? {r : Text.CaseRun} (away : leadsAway r = true) {n m : Nat}
    (h : r.move? n = some m) : isFieldChar (Char.ofNat m) = false := by
  unfold Text.CaseRun.move? at h
  split at h
  · next within =>
    obtain rfl := Option.some.inj h
    simp only [leadsAway, Bool.or_eq_true, Bool.and_eq_true, decide_eq_true_eq, List.all_eq_true,
      beq_iff_eq, Bool.not_eq_true'] at away
    rcases away with ⟨beyond, visible⟩ | ⟨single, foreign⟩
    · by_cases valid : (n + r.shift).toNat.isValidChar
      · have value : (Char.ofNat (n + r.shift).toNat).toNat = (n + r.shift).toNat := by
          rw [Char.ofNat, dif_pos valid]
          rfl
        refine isFieldChar_eq_false (by omega) (List.any_eq_false.2 fun range hr hc => ?_)
        have := visible range hr
        simp only [value, Bool.and_eq_true, decide_eq_true_eq] at hc
        omega
      · rw [Char.ofNat, dif_neg valid]
        decide
    · obtain rfl : r.first = n := by omega
      exact foreign
  · nomatch h

/-- A character beyond ASCII that is no blank leaves a trace in its upper case. -/
theorem upperChar_foreign {c : Char} (beyond : 128 ≤ c.toNat) (visible : Text.isBlank c = false) :
    ∃ d ∈ Text.upperChar c, isFieldChar d = false := by
  unfold Text.upperChar
  rw [if_neg (by omega)]
  split
  · next ns h =>
    obtain ⟨before, after, h, -⟩ := List.lookup_eq_some_iff.1 h
    obtain ⟨n, hn, foreign⟩ := upperSpecials_foreign (c.toNat, ns) (by rw [h]; simp)
    exact ⟨Char.ofNat n, List.mem_map_of_mem hn, foreign⟩
  · refine ⟨_, List.mem_singleton_self _, ?_⟩
    unfold Text.moveCase
    split
    · next m h =>
      obtain ⟨r, hr, move⟩ := List.exists_of_findSome?_eq_some h
      exact isFieldChar_move? (upperRuns_leadAway r hr) move
    · exact isFieldChar_eq_false beyond visible

/-! ### Texts -/

/-- ASCII and blanks change case letter by letter. -/
theorem upperChar_eq_toUpper {c : Char} (h : c.toNat < 128 ∨ Text.isBlank c = true) :
    Text.upperChar c = [c.toUpper] := by
  rcases h with ascii | blank
  · rw [Text.upperChar_of_ascii ascii, upperAscii_eq_toUpper ascii]
  · rw [upperChar_of_isBlank blank, toUpper_of_isBlank blank]

theorem upper_eq_map_of {f : Char → Char} {cs : List Char}
    (h : ∀ c ∈ cs, Text.upperChar c = [f c]) : Text.upper cs = cs.map f := by
  induction cs with
  | nil => rfl
  | cons c cs ih =>
    have tail := ih fun d hd => h d (List.mem_cons_of_mem c hd)
    have head := h c (List.mem_cons_self ..)
    rw [Text.upper, List.flatMap_cons, head, ← Text.upper, tail]
    rfl

theorem eq_of_toUpper {c d : Char} (h : c.toUpper = d) (caseless : d.isUpper = false) : c = d := by
  subst h
  by_cases ascii : c.toNat < 128
  · exact Text.of_ascii (P := fun c => c.toUpper.isUpper = false → c = c.toUpper) (by decide) ascii
      caseless
  · exact (toUpper_of_beyond (Nat.not_lt.1 ascii)).symm

/-- Characters without case are the upper case of themselves only. -/
theorem eq_of_map_toUpper {cs ds : List Char} (h : cs.map Char.toUpper = ds)
    (caseless : ∀ d ∈ ds, d.isUpper = false) : cs = ds := by
  induction cs generalizing ds with
  | nil => exact h
  | cons c cs ih =>
    obtain _ | ⟨d, ds⟩ := ds
    · nomatch h
    · rw [List.map_cons, List.cons.injEq] at h
      rw [eq_of_toUpper h.1 (caseless d (List.mem_cons_self ..)),
        ih h.2 fun e he => caseless e (List.mem_cons_of_mem d he)]

/-- A text whose upper case could be that of a symbolic field changes case letter by letter. -/
theorem upper_eq_map {cs : List Char} (h : ∀ d ∈ Text.upper cs, isFieldChar d = true) :
    Text.upper cs = cs.map Char.toUpper := by
  refine upper_eq_map_of fun c hc => upperChar_eq_toUpper ?_
  by_contra other
  rw [not_or, Nat.not_lt, Bool.not_eq_true] at other
  obtain ⟨d, hd, foreign⟩ := upperChar_foreign other.1 other.2
  have := h d (List.mem_flatMap.2 ⟨c, hc, hd⟩)
  rw [foreign] at this
  nomatch this

end Almanac.Template
