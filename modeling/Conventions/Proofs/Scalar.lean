import Conventions.Value.Scalar
import Conventions.Proofs.Text

/-!
# Texts of scalars

The text of a scalar that is no text itself has a character that is no letter, a digit, a hyphen or a point,
apart from a few words. So a name, or a suffix of capital letters, can only come from a text.
-/

namespace Conventions

namespace Binary64

theorem Decimal.exists_not_isAlpha_text (d : Decimal) : ∃ c ∈ d.text, c.isAlpha = false := by
  simp only [Decimal.text]
  split
  · refine ⟨if d.point - 1 < 0 then '-' else '+', ?_, ?_⟩
    · simp [exponentText]
    · split <;> decide
  split
  · exact ⟨'.', by simp, by decide⟩
  split
  · exact ⟨'.', by simp, by decide⟩
  · exact ⟨'.', by simp, by decide⟩

theorem text_of_letters {x : Binary64} (h : ∀ c ∈ x.text.toList, c.isAlpha = true) :
    x.text = "inf" ∨ x.text = "nan" := by
  cases x with
  | finite s m e =>
      exfalso
      have hbody : ∃ c ∈ (if m = 0 then ['0', '.', '0'] else (shortest m e).text), c.isAlpha = false := by
        split
        · exact ⟨'.', by simp, by decide⟩
        · exact Decimal.exists_not_isAlpha_text _
      obtain ⟨c, hc, ha⟩ := hbody
      have hmem : c ∈ (text (.finite s m e)).toList := by
        simp only [text, String.toList_ofList, List.mem_append]
        exact Or.inr hc
      rw [h c hmem] at ha; cases ha
  | infinite s =>
      cases s with
      | false => exact Or.inl (by decide)
      | true => exact absurd (h '-' (by decide)) (by decide)
  | nan => exact Or.inr rfl

end Binary64

theorem Day.hyphen_mem_plain (d : Day) : '-' ∈ d.plain.toList := by
  simp [Day.plain, toString]

namespace Scalar

theorem isDigit_of_mem_repr {n : Nat} {c : Char} (h : c ∈ n.repr.toList) : c.isDigit = true := by
  rw [Nat.toList_repr] at h
  exact Nat.isDigit_of_mem_toDigits (by decide) (by decide) h

theorem isDigit_or_hyphen_of_mem_int {n : Int} {c : Char} (h : c ∈ (toString n).toList) :
    c.isDigit = true ∨ c = '-' := by
  cases n with
  | ofNat m => exact Or.inl (isDigit_of_mem_repr h)
  | negSucc m =>
      have hm : c ∈ '-' :: (m + 1).repr.toList := by simpa [toString, Int.repr] using h
      exact (List.mem_cons.1 hm).symm.imp_left isDigit_of_mem_repr

theorem exists_not_isAlpha_int (n : Int) : ∃ c ∈ (toString n).toList, c.isAlpha = false := by
  cases n with
  | ofNat m =>
      have hne : m.repr.toList ≠ [] := by
        rw [Nat.toList_repr]
        exact Nat.toDigits_ne_nil
      obtain ⟨c, hc⟩ := List.exists_mem_of_ne_nil _ hne
      exact ⟨c, hc, Text.isAlpha_eq_false_of_isDigit (isDigit_of_mem_repr hc)⟩
  | negSucc m => exact ⟨'-', by simp [toString, Int.repr], by decide⟩

/-- The words that scalars other than texts have as their text. -/
def plainWords : List String := ["None", "True", "False", "inf", "nan"]

theorem text_or_word_of_letters {s : Scalar} (h : ∀ c ∈ s.plain.toList, c.isAlpha = true) :
    s = .text s.plain ∨ s.plain ∈ plainWords := by
  have hyphen (hs : '-' ∈ s.plain.toList) : False := absurd (h '-' hs) (by decide)
  cases s with
  | null => exact Or.inr (by decide)
  | bool b => cases b <;> exact Or.inr (by decide)
  | int n =>
      obtain ⟨c, hc, ha⟩ := exists_not_isAlpha_int n
      rw [h c hc] at ha; cases ha
  | float x =>
      rcases Binary64.text_of_letters h with hx | hx
      · exact Or.inr (by simp [plain, hx, plainWords])
      · exact Or.inr (by simp [plain, hx, plainWords])
  | text t => exact Or.inl rfl
  | day d => exact (hyphen d.hyphen_mem_plain).elim
  | moment m => exact (hyphen (by simp [plain, Moment.plain, Day.hyphen_mem_plain])).elim

end Scalar

end Conventions
