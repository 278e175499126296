import Mathlib.Data.List.Infix
import Conventions.Glob

/-!
# Globs of literal texts

A glob of a literal text with stars around it asks whether the text begins, ends, or stands in what it is matched
against.
-/

namespace Conventions.Glob

variable {g : Glob} {w cs : List Char} {text : String}

/-- The glob that stands for one text alone. -/
def literal (w : List Char) : Glob := w.map GlobItem.char

/-! ## What a glob accepts -/

theorem anyTail_iff {p : List Char → Bool} :
    anyTail p cs = true ↔ ∃ tail, tail <:+ cs ∧ p tail = true := by
  induction cs with
  | nil => simp [anyTail]
  | cons c cs ih => simp [anyTail, ih, List.suffix_cons_iff, or_and_right, exists_or]

theorem accepts_star_cons :
    accepts (.star :: g) cs = true ↔ ∃ tail, tail <:+ cs ∧ accepts g tail = true := by
  rw [accepts, anyTail_iff]

theorem accepts_star : accepts [.star] cs = true := by
  rw [accepts_star_cons]
  exact ⟨[], List.nil_suffix, rfl⟩

theorem accepts_literal_append :
    accepts (literal w ++ g) cs = true ↔ ∃ rest, w ++ rest = cs ∧ accepts g rest = true := by
  induction w generalizing cs with
  | nil => simp [literal]
  | cons c w ih =>
      simp only [literal] at ih
      cases cs with
      | nil => simp [literal, accepts]
      | cons d cs =>
          simp [literal, accepts, GlobItem.accepts, ih, and_assoc]

theorem accepts_literal : accepts (literal w) cs = true ↔ w = cs := by
  have h : accepts (literal w ++ []) cs = true ↔ _ := accepts_literal_append
  simpa [accepts] using h

theorem accepts_literal_star : accepts (literal w ++ [.star]) cs = true ↔ w <+: cs := by
  simp [accepts_literal_append, accepts_star, List.IsPrefix]

theorem accepts_star_literal : accepts (.star :: literal w) cs = true ↔ w <:+ cs := by
  simp [accepts_star_cons, accepts_literal]

theorem accepts_star_literal_star :
    accepts (.star :: (literal w ++ [.star])) cs = true ↔ w <:+: cs := by
  simp only [accepts_star_cons, accepts_literal_star, List.infix_iff_prefix_suffix, and_comm]

/-! ## Globs as text -/

/-- Whether a text stands for itself in a glob: it has no star, no question mark and no open bracket. -/
def IsLiteral (w : List Char) : Prop := ∀ c ∈ w, c ∉ ['*', '?', '[']

instance : Decidable (IsLiteral w) := List.decidableBAll _ w

theorem parse_literal_append (hw : IsLiteral w) : parse (w ++ cs) = literal w ++ parse cs := by
  induction w with
  | nil => rfl
  | cons c w ih =>
      rw [IsLiteral, List.forall_mem_cons] at hw
      have hc : c ≠ '*' ∧ c ≠ '?' ∧ c ≠ '[' := by simpa using hw.1
      rw [List.cons_append, parse, ih hw.2]
      · rfl
      · exact hc.1
      · exact hc.2.1
      · exact hc.2.2

theorem parse_literal (hw : IsLiteral w) : parse w = literal w := by
  have h : parse (w ++ []) = literal w ++ parse [] := parse_literal_append hw
  rwa [List.append_nil, parse, List.append_nil] at h

theorem parse_star_cons : parse ('*' :: cs) = .star :: parse cs := by
  rw [parse]

theorem parse_star : parse ['*'] = [.star] := by
  rw [parse_star_cons, parse]

theorem matchesText_literal_star (hw : IsLiteral w) :
    matchesText (String.ofList (w ++ ['*'])) text = true ↔ w <+: text.toList := by
  rw [matchesText_eq, String.toList_ofList, parse_literal_append hw, parse_star, accepts_literal_star]

theorem matchesText_star_literal (hw : IsLiteral w) :
    matchesText (String.ofList ('*' :: w)) text = true ↔ w <:+ text.toList := by
  rw [matchesText_eq, String.toList_ofList, parse_star_cons, parse_literal hw, accepts_star_literal]

theorem matchesText_star_literal_star (hw : IsLiteral w) :
    matchesText (String.ofList ('*' :: (w ++ ['*']))) text = true ↔ w <:+: text.toList := by
  rw [matchesText_eq, String.toList_ofList, parse_star_cons, parse_literal_append hw, parse_star,
    accepts_star_literal_star]

end Conventions.Glob
