import Almanac.Text.Digits
import Mathlib.Algebra.Group.Nat.Defs

/-! Numbers of fixed width.

Among the digit words of one length, each number has one word at most (`eq_of_ofDigitChars_eq`). So a
number that fits a width is written in exactly this width (`length_padded`), and a digit word is what
its own number is written as (`padded_ofDigitChars`). So a text of any length denotes a number exactly
when it is digits and nothing else (`denotes_iff`). -/
namespace Almanac.Text

/-- A character that is a digit is told by its value. -/
theorem eq_of_isDigit {c d : Char} (hc : c.isDigit = true) (hd : d.isDigit = true)
    (h : c.toNat - '0'.toNat = d.toNat - '0'.toNat) : c = d := by
  rw [Char.isDigit_iff_toNat] at hc hd
  exact Char.toNat_inj.1 (by omega)

/-- The first digit counts for the power of ten of the digits after it. -/
theorem ofDigitChars_cons (c : Char) (cs : List Char) :
    Nat.ofDigitChars 10 (c :: cs) 0 =
      10 ^ cs.length * (c.toNat - '0'.toNat) + Nat.ofDigitChars 10 cs 0 := by
  rw [Nat.ofDigitChars_cons, Nat.ofDigitChars_eq_ofDigitChars_zero, Nat.mul_zero, Nat.zero_add]

theorem ofDigitChars_lt {cs : List Char} (h : ∀ c ∈ cs, c.isDigit = true) :
    Nat.ofDigitChars 10 cs 0 < 10 ^ cs.length := by
  induction cs with
  | nil => exact Nat.one_pos
  | cons c cs ih =>
    have tail := ih fun d hd => h d (List.mem_cons_of_mem c hd)
    have digit : c.toNat - '0'.toNat ≤ 9 := by
      have := (Char.isDigit_iff_toNat.1 (h c (List.mem_cons_self ..))).2
      have : '9'.toNat = '0'.toNat + 9 := rfl
      omega
    have head := Nat.mul_le_mul_left (10 ^ cs.length) digit
    rw [ofDigitChars_cons, List.length_cons, Nat.pow_succ]
    omega

/-- Among digit words of one length, a number has one word at most. -/
theorem eq_of_ofDigitChars_eq {cs ds : List Char} (hc : ∀ c ∈ cs, c.isDigit = true)
    (hd : ∀ d ∈ ds, d.isDigit = true) (length : cs.length = ds.length)
    (value : Nat.ofDigitChars 10 cs 0 = Nat.ofDigitChars 10 ds 0) : cs = ds := by
  induction cs generalizing ds with
  | nil => exact (List.length_eq_zero_iff.1 length.symm).symm
  | cons c cs ih =>
    obtain _ | ⟨d, ds⟩ := ds
    · nomatch length
    have hc' : ∀ c ∈ cs, c.isDigit = true := fun e he => hc e (List.mem_cons_of_mem c he)
    have hd' : ∀ d ∈ ds, d.isDigit = true := fun e he => hd e (List.mem_cons_of_mem d he)
    have length : cs.length = ds.length := Nat.succ.inj length
    have small := ofDigitChars_lt hc'
    have small' := ofDigitChars_lt hd'
    rw [ofDigitChars_cons, ofDigitChars_cons, length] at value
    rw [length] at small
    -- The first digits are the quotients by the power of ten, the rest the remainders.
    have quotient := congrArg (· / 10 ^ ds.length) value
    have remainder := congrArg (· % 10 ^ ds.length) value
    simp only [Nat.mul_add_div (Nat.pow_pos (Nat.succ_pos 9)), Nat.div_eq_of_lt small,
      Nat.div_eq_of_lt small', Nat.add_zero] at quotient
    simp only [Nat.mul_add_mod, Nat.mod_eq_of_lt small, Nat.mod_eq_of_lt small'] at remainder
    rw [eq_of_isDigit (hc c (List.mem_cons_self ..)) (hd d (List.mem_cons_self ..)) quotient,
      ih hc' hd' length remainder]

theorem length_padded {width n : Nat} (positive : 0 < width) (h : n < 10 ^ width) :
    (padded width n).length = width := by
  have fits := (Nat.length_toDigits_le_iff (by decide : 1 < 10) positive).2 h
  rw [padded, List.length_append, List.length_replicate]
  omega

/-- A digit word is what its number is written as. -/
theorem padded_ofDigitChars {cs : List Char} (ne : cs ≠ []) (h : ∀ c ∈ cs, c.isDigit = true) :
    padded cs.length (Nat.ofDigitChars 10 cs 0) = cs := by
  apply eq_of_ofDigitChars_eq
  · exact fun c => isDigit_of_mem_padded
  · exact h
  · exact length_padded (List.length_pos_iff.2 ne) (ofDigitChars_lt h)
  · exact ofDigitChars_padded _ _

/-- A text denotes a number when it is the number in decimal, behind any number of zeros. -/
def Denotes (cs : List Char) (n : Nat) : Prop :=
  ∃ zeros, cs = List.replicate zeros '0' ++ Nat.toDigits 10 n

theorem denotes_padded (width n : Nat) : Denotes (padded width n) n :=
  ⟨_, rfl⟩

theorem Denotes.exists_padded {cs : List Char} {n : Nat} (h : Denotes cs n) :
    ∃ width, cs = padded width n := by
  obtain ⟨zeros, rfl⟩ := h
  refine ⟨zeros + (Nat.toDigits 10 n).length, ?_⟩
  rw [padded, Nat.add_sub_cancel]

/-- What is digits and nothing else denotes the value of these digits, and nothing else does. -/
theorem denotes_iff {cs : List Char} {n : Nat} : Denotes cs n ↔
    (cs ≠ [] ∧ ∀ c ∈ cs, c.isDigit = true) ∧ Nat.ofDigitChars 10 cs 0 = n := by
  constructor
  · intro h
    obtain ⟨width, rfl⟩ := h.exists_padded
    exact ⟨⟨padded_ne_nil width n, fun _ => isDigit_of_mem_padded⟩, ofDigitChars_padded width n⟩
  · rintro ⟨⟨ne, digits⟩, rfl⟩
    have written := denotes_padded cs.length (Nat.ofDigitChars 10 cs 0)
    rwa [padded_ofDigitChars ne digits] at written

end Almanac.Text
