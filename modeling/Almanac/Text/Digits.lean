/-!
Numbers in ASCII decimal digits. `number?` reads a text that is digits and nothing else, with any
number of zeros in front; `padded` and `signed` write a number at a least width. Main statements:
what `padded` writes is read back (`number?_padded`), and `number?` refuses exactly the texts that
are empty or hold something other than a digit (`number?_eq_none_iff`).
-/
namespace Almanac.Text

/-- The number that a text of one or more ASCII digits denotes. -/
def number? (cs : List Char) : Option Nat :=
  if cs ≠ [] ∧ cs.all Char.isDigit then some (Nat.ofDigitChars 10 cs 0) else none

theorem number?_eq_none_iff {cs : List Char} :
    number? cs = none ↔ cs = [] ∨ ∃ c ∈ cs, c.isDigit = false := by
  by_cases h : cs = [] <;> simp [number?, h]

/-- A number in decimal, with zeros in front up to a least width. -/
def padded (width n : Nat) : List Char :=
  let digits := Nat.toDigits 10 n
  List.replicate (width - digits.length) '0' ++ digits

theorem padded_ne_nil (width n : Nat) : padded width n ≠ [] := by
  simp [padded]

theorem isDigit_of_mem_padded {width n : Nat} {c : Char} (h : c ∈ padded width n) :
    c.isDigit = true := by
  rcases List.mem_append.1 h with zero | digit
  · obtain ⟨-, rfl⟩ := List.mem_replicate.1 zero
    rfl
  · exact Nat.isDigit_of_mem_toDigits (by decide) (by decide) digit

theorem ofDigitChars_padded (width n : Nat) : Nat.ofDigitChars 10 (padded width n) 0 = n := by
  rw [padded, Nat.ofDigitChars_append, Nat.ofDigitChars_replicate_zero, Nat.mul_zero,
    Nat.ofDigitChars_ten_toDigits]

theorem number?_padded (width n : Nat) : number? (padded width n) = some n := by
  have digits : (padded width n).all Char.isDigit = true :=
    List.all_eq_true.2 fun c => isDigit_of_mem_padded
  rw [number?, if_pos ⟨padded_ne_nil width n, digits⟩, ofDigitChars_padded]

/-- An integer in decimal, with zeros between its sign and its digits up to a least width that
counts the sign. -/
def signed (width : Nat) (n : Int) : List Char :=
  if n < 0 then '-' :: padded (width - 1) n.natAbs else padded width n.natAbs

end Almanac.Text
