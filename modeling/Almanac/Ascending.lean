/-! The elements of a list in ascending order, each once.

`ascending` forgets how often and in what order the elements of a list occur, and nothing else: it
sorts, then drops every element that repeats the one before it. In a linear order every element of
the result is therefore less than those after it (`pairwise_ascending`). -/
namespace Almanac
variable {α : Type}

/-- A list without the elements that repeat the element right before them. -/
def dropRepeats [DecidableEq α] : List α → List α
  | [] => []
  | [x] => [x]
  | x :: y :: xs => if x = y then dropRepeats (y :: xs) else x :: dropRepeats (y :: xs)

theorem mem_dropRepeats [DecidableEq α] {xs : List α} {a : α} : a ∈ dropRepeats xs ↔ a ∈ xs := by
  fun_induction dropRepeats xs with
  | case1 => simp
  | case2 => simp
  | case3 y xs ih => rw [ih]; simp
  | case4 x y xs h ih => rw [List.mem_cons, ih, List.mem_cons (b := x)]

/-- The elements of a list in ascending order, each once. -/
def ascending [DecidableEq α] [LE α] [DecidableLE α] (xs : List α) : List α :=
  dropRepeats (xs.mergeSort fun x y => decide (x ≤ y))

/-- Nothing comes or goes. -/
theorem mem_ascending [DecidableEq α] [LE α] [DecidableLE α] {xs : List α} {a : α} :
    a ∈ ascending xs ↔ a ∈ xs := by
  rw [ascending, mem_dropRepeats, List.mem_mergeSort]

section LinearOrder
variable [LE α] [Std.IsLinearOrder α]

/-- Of an ordered list, equal elements being neighbours, one of each is left. -/
theorem pairwise_dropRepeats [DecidableEq α] [LT α] [Std.LawfulOrderLT α] {xs : List α}
    (ordered : xs.Pairwise (· ≤ ·)) : (dropRepeats xs).Pairwise (· < ·) := by
  fun_induction dropRepeats xs with
  | case1 => exact .nil
  | case2 x => exact List.pairwise_singleton _ x
  | case3 y xs ih => exact ih ordered.of_cons
  | case4 x y xs differ ih =>
    obtain ⟨least, rest⟩ := List.pairwise_cons.1 ordered
    have less : x < y := Std.lt_of_le_of_ne (least y List.mem_cons_self) differ
    refine .cons (fun z hz => ?_) (ih rest)
    obtain rfl | hz := List.mem_cons.1 (mem_dropRepeats.1 hz)
    · exact less
    · exact Std.lt_of_lt_of_le less (List.rel_of_pairwise_cons rest hz)

theorem decide_le_trans [DecidableLE α] (a b c : α) (h : decide (a ≤ b) = true)
    (h' : decide (b ≤ c) = true) : decide (a ≤ c) = true :=
  decide_eq_true (Std.le_trans (of_decide_eq_true h) (of_decide_eq_true h'))

theorem decide_le_total [DecidableLE α] (a b : α) : (decide (a ≤ b) || decide (b ≤ a)) = true := by
  rw [Bool.or_eq_true]
  exact (Std.le_total (a := a) (b := b)).imp decide_eq_true decide_eq_true

theorem pairwise_ascending [DecidableEq α] [DecidableLE α] [LT α] [Std.LawfulOrderLT α]
    (xs : List α) : (ascending xs).Pairwise (· < ·) :=
  pairwise_dropRepeats <|
    (List.pairwise_mergeSort decide_le_trans decide_le_total xs).imp of_decide_eq_true

end LinearOrder

end Almanac
