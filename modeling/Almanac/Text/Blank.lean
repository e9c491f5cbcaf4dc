/-!
Blank characters and trimming. A character is blank when it has the property White_Space, which
holds more than the ASCII blanks and less than everything a reader does not see: the no-break space
and the ideographic space are in, the zero width space and the byte order mark are not. Main
statement: `trim` leaves a text alone when neither of its ends is blank (`trim_eq_self`).
-/
namespace Almanac.Text

/-- Whether a code point lies in one of the ranges, whose ends are included. -/
def inRanges (ranges : List (Nat × Nat)) (c : Char) : Bool :=
  ranges.any fun (first, last) => first ≤ c.toNat && c.toNat ≤ last

/-- The ranges of White_Space. -/
def blankRanges : List (Nat × Nat) :=
  [(0x09, 0x0D), (0x20, 0x20), (0x85, 0x85), (0xA0, 0xA0), (0x1680, 0x1680), (0x2000, 0x200A),
    (0x2028, 0x2029), (0x202F, 0x202F), (0x205F, 0x205F), (0x3000, 0x3000)]

/-- Whether a character has the property White_Space. -/
def isBlank (c : Char) : Bool :=
  inRanges blankRanges c

/-- A text without the blanks at its front. -/
def trimStart (cs : List Char) : List Char :=
  cs.dropWhile isBlank

/-- A text without the blanks at its end. -/
def trimEnd (cs : List Char) : List Char :=
  (cs.reverse.dropWhile isBlank).reverse

/-- A text without the blanks at either end; blanks inside it stay. -/
def trim (cs : List Char) : List Char :=
  trimEnd (trimStart cs)

theorem trim_eq_self {cs : List Char} (front : cs.head?.all (!isBlank ·))
    (back : cs.getLast?.all (!isBlank ·)) : trim cs = cs := by
  have h₁ : trimStart cs = cs := by
    cases cs with
    | nil => rfl
    | cons c cs => simp_all [trimStart]
  rw [trim, h₁, trimEnd]
  rcases hr : cs.reverse with _ | ⟨c, rest⟩
  · simp_all
  · have : cs.getLast? = some c := by rw [← List.head?_reverse, hr]; rfl
    simp_all

end Almanac.Text
