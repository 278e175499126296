/-!
# Code-point ranges

A character class beyond ASCII is a table of ranges of code points, sorted and disjoint. The look-up
stops at the first range that lies above the code point.
-/

namespace Conventions.Text

/-- Whether a code point lies in one of the ranges of a sorted table. -/
def inRanges : List (Nat × Nat) → Nat → Bool
  | [], _ => false
  | (lo, hi) :: rest, n => if n < lo then false else n ≤ hi || inRanges rest n

theorem exists_range_of_inRanges {table : List (Nat × Nat)} {n : Nat} (h : inRanges table n = true) :
    ∃ r ∈ table, r.1 ≤ n ∧ n ≤ r.2 := by
  induction table with
  | nil => simp [inRanges] at h
  | cons r rest ih =>
      simp only [inRanges] at h
      split at h
      · simp at h
      · rename_i hlo
        rcases Bool.or_eq_true_iff.1 h with hhi | hrest
        · exact ⟨r, by simp, by omega, by simpa using hhi⟩
        · obtain ⟨s, hs, hb⟩ := ih hrest
          exact ⟨s, by simp [hs], hb⟩

end Conventions.Text
