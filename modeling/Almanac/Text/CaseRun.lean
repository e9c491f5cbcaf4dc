/-!
Runs of code points that change case together. The case mappings of one character to one character
move whole stretches of an alphabet by the same distance, or every second character of a stretch
where capitals and small letters alternate.
-/
namespace Almanac.Text

/-- A run of code points `first`, `first + stride`, … up to `last`, each of which moves by
`shift`. -/
structure CaseRun where
  first : Nat
  last : Nat
  stride : Nat
  shift : Int

/-- The code point that `n` moves to, when `n` belongs to the run. -/
def CaseRun.move? (r : CaseRun) (n : Nat) : Option Nat :=
  if r.first ≤ n ∧ n ≤ r.last ∧ (n - r.first) % r.stride = 0 then some (n + r.shift).toNat else none

/-- The character that the first run holding `c` moves it to; a character of no run stays. -/
def moveCase (runs : List CaseRun) (c : Char) : Char :=
  match runs.findSome? (·.move? c.toNat) with
  | some n => Char.ofNat n
  | none => c

end Almanac.Text
