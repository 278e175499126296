/-!
# Texts in order

Texts are ordered by the code points of their characters. Sorting keeps every text; sorting without
repetitions gives a strictly increasing list.
-/

namespace Conventions.Text

/-- Whether a text comes before another one or equals it. -/
def atMost (a b : String) : Bool := decide (a ≤ b)

/-- The texts in order. -/
def sorted (ss : List String) : List String := ss.mergeSort atMost

/-- Drops every element that equals the one before it. -/
def dropRepeats {α : Type} [DecidableEq α] : List α → List α
  | [] => []
  | [x] => [x]
  | x :: y :: rest => if x = y then dropRepeats (y :: rest) else x :: dropRepeats (y :: rest)

/-- The texts in order, each one once. -/
def sortedDistinct (ss : List String) : List String := dropRepeats (sorted ss)

theorem sorted_perm (ss : List String) : (sorted ss).Perm ss := List.mergeSort_perm ss atMost

theorem mem_dropRepeats {α : Type} [DecidableEq α] {x : α} {xs : List α} :
    x ∈ dropRepeats xs ↔ x ∈ xs := by
  fun_induction dropRepeats xs with
  | case1 => simp
  | case2 => simp
  | case3 a rest ih => simp [ih]
  | case4 a b rest h ih => simp [ih]

theorem mem_sortedDistinct {s : String} {ss : List String} : s ∈ sortedDistinct ss ↔ s ∈ ss := by
  rw [sortedDistinct, mem_dropRepeats, (sorted_perm ss).mem_iff]

end Conventions.Text
