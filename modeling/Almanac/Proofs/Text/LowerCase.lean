import Almanac.Proofs.Text.Ascii
import Almanac.Text.LowerCase
import Mathlib.Data.List.Basic

/-! Words in lower case.

Lower case is taken over all of Unicode, where one character beyond ASCII becomes an ASCII letter:
the Kelvin sign becomes a k. So a word of small letters without a k is the lower case of the texts
that spell it in ASCII letters of either case, and of no others (`lower_eq_iff`). -/
namespace Almanac.Text

/-- A small letter that no character beyond ASCII becomes. -/
def isWordLetter (c : Char) : Bool :=
  c.isLower && c != 'k'

theorem isWordLetter_ascii {c : Char} (h : isWordLetter c = true) : c.toNat < 128 := by
  have small : c.isLower = true := (Bool.and_eq_true_iff.1 h).1
  have bound : c.val ≤ 122 := of_decide_eq_true (Bool.and_eq_true_iff.1 small).2
  have : c.toNat ≤ 122 := UInt32.le_iff_toNat_le.1 bound
  omega

/-! ### Characters -/

theorem lowerAscii_eq_toLower {c : Char} (ascii : c.toNat < 128) : lowerAscii c = c.toLower :=
  of_ascii (P := fun c => lowerAscii c = c.toLower) (by decide) ascii

theorem toLower_of_beyond {c : Char} (beyond : 128 ≤ c.toNat) : c.toLower = c := by
  have notUpper : ¬ ('A'.val ≤ c.val ∧ c.val ≤ 'Z'.val) := fun h => by
    have : c.toNat ≤ 90 := UInt32.le_iff_toNat_le.1 h.2
    omega
  exact dif_neg notUpper

/-- A run that stays beyond ASCII, or moves one character alone to no letter of a word. -/
def staysAway (r : CaseRun) : Bool :=
  128 ≤ r.first + r.shift ||
    r.first == r.last && !isWordLetter (Char.ofNat (r.first + r.shift).toNat)

theorem lowerRuns_stayAway : ∀ r ∈ lowerRuns, staysAway r = true := by
  decide +kernel

theorem isWordLetter_move? {r : CaseRun} (away : staysAway r = true) {n m : Nat}
    (h : r.move? n = some m) : isWordLetter (Char.ofNat m) = false := by
  unfold CaseRun.move? at h
  split at h
  · next within =>
    obtain rfl := Option.some.inj h
    simp only [staysAway, Bool.or_eq_true, Bool.and_eq_true, decide_eq_true_eq, beq_iff_eq,
      Bool.not_eq_true'] at away
    rcases away with beyond | ⟨single, foreign⟩
    · by_cases valid : (n + r.shift).toNat.isValidChar
      · have value : (Char.ofNat (n + r.shift).toNat).toNat = (n + r.shift).toNat := by
          rw [Char.ofNat, dif_pos valid]
          rfl
        refine Bool.eq_false_iff.2 fun letter => ?_
        have := isWordLetter_ascii letter
        omega
      · rw [Char.ofNat, dif_neg valid]
        decide
    · obtain rfl : r.first = n := by omega
      exact foreign
  · cases h

/-- A character beyond ASCII leaves a trace in its lower case. -/
theorem lowerChar_foreign {c : Char} (beyond : 128 ≤ c.toNat) :
    ∃ d ∈ lowerChar c, isWordLetter d = false := by
  unfold lowerChar
  rw [if_neg (Nat.not_lt.2 beyond)]
  split
  · exact ⟨Char.ofNat 0x307, by simp, by decide⟩
  · refine ⟨_, List.mem_singleton_self _, ?_⟩
    unfold moveCase
    split
    · next m found =>
      obtain ⟨r, member, move⟩ := List.exists_of_findSome?_eq_some found
      exact isWordLetter_move? (lowerRuns_stayAway r member) move
    · refine Bool.eq_false_iff.2 fun letter => ?_
      have := isWordLetter_ascii letter
      omega

/-! ### Words -/

theorem lower_eq_map {cs : List Char} (ascii : ∀ c ∈ cs, c.toNat < 128) :
    lower cs = cs.map Char.toLower := by
  rw [lower, List.map_eq_flatMap]
  refine List.flatMap_congr fun c member => ?_
  rw [lowerChar_of_ascii (ascii c member), lowerAscii_eq_toLower (ascii c member)]

/-- A word in lower case is spelled in ASCII letters of either case. -/
theorem lower_eq_iff {cs word : List Char} (letters : ∀ d ∈ word, isWordLetter d = true) :
    lower cs = word ↔ cs.map Char.toLower = word := by
  constructor
  · rintro rfl
    refine (lower_eq_map fun c member => ?_).symm
    by_contra beyond
    obtain ⟨d, found, foreign⟩ := lowerChar_foreign (Nat.not_lt.1 beyond)
    cases foreign.symm.trans (letters d (List.mem_flatMap.2 ⟨c, member, found⟩))
  · rintro rfl
    refine lower_eq_map fun c member => ?_
    by_contra beyond
    have letter := isWordLetter_ascii (letters _ (List.mem_map_of_mem member))
    rw [toLower_of_beyond (Nat.not_lt.1 beyond)] at letter
    exact beyond letter

end Almanac.Text
