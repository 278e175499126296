import Mathlib.Data.List.TakeWhile
import Conventions.Proofs.Text
import Conventions.Text.Lines

/-!
# Lines and the boundaries between them

The first line of a text ends at its first line boundary, and the other lines are those of what follows. No line has a
boundary in it, and lines without boundaries come back from the text that joins them with line feeds.
-/

namespace Conventions.Text

variable {c : Char} {cs rest l : List Char} {ls : List (List Char)}

/-! ## Boundaries -/

theorem isBlank_of_isLineEnd (h : isLineEnd c = true) : isBlank c = true := by
  have hcodes : ∀ r ∈ lineEndRanges, ∀ n < r.2 - r.1 + 1, inRanges blankRanges (r.1 + n) = true := by decide
  obtain ⟨r, hr, hlow, hhigh⟩ := exists_range_of_inRanges h
  have hcode := hcodes r hr (c.toNat - r.1) (by omega)
  rwa [Nat.add_sub_cancel' hlow] at hcode

theorem isLineEnd_newline : isLineEnd '\n' = true := by decide

/-- Whether a text has no line boundary in it. -/
def IsLine (cs : List Char) : Prop := ∀ c ∈ cs, isLineEnd c = false

instance (cs : List Char) : Decidable (IsLine cs) := List.decidableBAll _ cs

theorem IsLine.nil : IsLine [] := nofun

theorem IsLine.of_cons (h : IsLine (c :: cs)) : isLineEnd c = false ∧ IsLine cs := List.forall_mem_cons.1 h

theorem IsLine.append (h : IsLine cs) (hl : IsLine l) : IsLine (cs ++ l) := List.forall_mem_append.2 ⟨h, hl⟩

theorem IsLine.of_isPrefix (h : IsLine cs) (hl : l <+: cs) : IsLine l := fun c hc => h c (hl.subset hc)

/-! ## The first line -/

/-- A text up to its first line boundary. -/
def firstLine (cs : List Char) : List Char := cs.takeWhile fun c => !isLineEnd c

theorem lines_eq_cons (h : cs ≠ []) : ∃ ls, lines cs = firstLine cs :: ls := by
  fun_induction lines cs with
  | case1 => exact absurd rfl h
  | case2 cs ih => exact ⟨_, rfl⟩
  | case3 c cs hreturn hend => exact ⟨lines cs, by simp [firstLine, hend]⟩
  | case4 c cs hreturn hend ih =>
      have hfirst : firstLine (c :: cs) = c :: firstLine cs := by simp [firstLine, hend]
      rw [hfirst]
      cases cs with
      | nil => exact ⟨[], rfl⟩
      | cons d cs =>
          obtain ⟨ls, hls⟩ := ih (List.cons_ne_nil d cs)
          exact ⟨ls, by rw [hls]; rfl⟩

theorem isLineEnd_of_mem_firstLine (h : c ∈ firstLine cs) : isLineEnd c = false := by
  simpa using List.mem_takeWhile_imp h

theorem not_mem_firstLine (h : isLineEnd c = true) : c ∉ firstLine cs := fun hc => by
  simp [isLineEnd_of_mem_firstLine hc] at h

theorem firstLine_prefix_before (cs : List Char) : firstLine cs <+: before '\n' cs :=
  (isPrefix_before_iff (not_mem_firstLine (by decide))).2 (List.takeWhile_prefix _)

theorem isPrefix_firstLine {w : List Char} (hw : w.any isLineEnd = false) (h : w <+: cs) : w <+: firstLine cs := by
  obtain ⟨t, rfl⟩ := h
  have hall : ∀ c ∈ w, (!isLineEnd c) = true := fun c hc => by simpa using List.any_eq_false.1 hw c hc
  rw [firstLine, List.takeWhile_append_of_pos hall]
  exact List.prefix_append w _

theorem unifyNewlines_of_not_mem (h : '\r' ∉ cs) : unifyNewlines cs = cs := by
  fun_induction unifyNewlines cs with
  | case1 => rfl
  | case2 cs ih => simp at h
  | case3 cs hn ih => simp at h
  | case4 c cs h1 h2 ih =>
      rw [List.mem_cons, not_or] at h
      rw [ih h.2]

/-! ## Lines behind one another -/

theorem lines_ne_nil (h : cs ≠ []) : lines cs ≠ [] := by
  obtain ⟨ls, hls⟩ := lines_eq_cons h
  exact hls ▸ List.cons_ne_nil _ _

theorem lines_cons_of_isLineEnd (h : isLineEnd c = true) (hreturn : c = '\r' → cs.head? ≠ some '\n') :
    lines (c :: cs) = [] :: lines cs := by
  rw [lines.eq_3, if_pos h]
  rintro rest hc rfl
  exact hreturn hc rfl

theorem lines_cons (h : isLineEnd c = false) : lines (c :: cs) = consLine c (lines cs) := by
  rw [lines.eq_3 _ _ fun _ hc => absurd (hc ▸ h) (by decide), if_neg (by simp [h])]

/-- A line in front of a boundary is the first one. -/
theorem lines_append (hl : IsLine l) (h : isLineEnd c = true) (hreturn : c ≠ '\r') :
    lines (l ++ c :: cs) = l :: lines cs := by
  induction l with
  | nil => exact lines_cons_of_isLineEnd h fun hc => absurd hc hreturn
  | cons d l ih =>
      rw [List.cons_append, lines_cons hl.of_cons.1, ih hl.of_cons.2]
      rfl

theorem lines_append_newline (hl : IsLine l) : lines (l ++ '\n' :: cs) = l :: lines cs :=
  lines_append hl isLineEnd_newline (by decide)

theorem lines_of_isLine (hl : IsLine l) (hne : l ≠ []) : lines l = [l] := by
  induction l with
  | nil => exact absurd rfl hne
  | cons d l ih =>
      rw [lines_cons hl.of_cons.1]
      cases l with
      | nil => rfl
      | cons e l =>
          rw [ih hl.of_cons.2 (List.cons_ne_nil e l)]
          rfl

theorem consLine_append (h : ls ≠ []) (ks : List (List Char)) : consLine c (ls ++ ks) = consLine c ls ++ ks := by
  obtain ⟨k, ls, rfl⟩ := List.exists_cons_of_ne_nil h
  rfl

/-- Only a carriage return at the end of a text is one boundary with a line feed behind the text. -/
theorem head?_append_newline (hreturn : ∀ rest, c = '\r' → cs = '\n' :: rest → False) (hc : ¬(c = '\r' ∧ cs = []))
    (rest : List Char) : c = '\r' → (cs ++ '\n' :: rest).head? ≠ some '\n' := by
  rintro rfl
  cases cs with
  | nil => exact absurd ⟨rfl, rfl⟩ hc
  | cons d cs => exact fun hd => hreturn cs rfl (by cases hd; rfl)

/-- Behind a line feed the lines begin anew. -/
theorem lines_append_newline_append (cs rest : List Char) :
    lines (cs ++ '\n' :: rest) = lines (cs ++ ['\n']) ++ lines rest := by
  fun_induction lines cs with
  | case1 => rfl
  | case2 cs ih => simp only [List.cons_append, lines, ih]
  | case3 c cs hreturn hend ih =>
      by_cases hc : c = '\r' ∧ cs = []
      · obtain ⟨rfl, rfl⟩ := hc
        rfl
      · rw [List.cons_append, List.cons_append, lines_cons_of_isLineEnd hend (head?_append_newline hreturn hc rest),
          lines_cons_of_isLineEnd hend (head?_append_newline hreturn hc []), ih]
        rfl
  | case4 c cs hreturn hend ih =>
      have hc : isLineEnd c = false := by simpa using hend
      rw [List.cons_append, List.cons_append, lines_cons hc, lines_cons hc, ih, consLine_append (lines_ne_nil (by simp))]

/-- Behind a text that is empty or ends with a line feed the lines begin anew. -/
theorem lines_append_of_getLast? (h : ∀ c, cs.getLast? = some c → c = '\n') (rest : List Char) :
    lines (cs ++ rest) = lines cs ++ lines rest := by
  rcases List.eq_nil_or_concat cs with rfl | ⟨init, c, rfl⟩
  · rfl
  · obtain rfl := h c (by simp)
    rw [List.concat_eq_append, List.append_assoc, List.singleton_append, lines_append_newline_append]

/-- A line feed behind a text ends its last line or opens a line without characters. -/
theorem lines_append_newline_self (cs : List Char) :
    lines (cs ++ ['\n']) = lines cs ∨ lines (cs ++ ['\n']) = lines cs ++ [[]] := by
  fun_induction lines cs with
  | case1 => exact Or.inr rfl
  | case2 cs ih => simpa only [List.cons_append, lines, List.cons.injEq, true_and] using ih
  | case3 c cs hreturn hend ih =>
      by_cases hc : c = '\r' ∧ cs = []
      · obtain ⟨rfl, rfl⟩ := hc
        exact Or.inl rfl
      · rw [List.cons_append, lines_cons_of_isLineEnd hend (head?_append_newline hreturn hc [])]
        simpa only [List.cons_append, List.cons.injEq, true_and] using ih
  | case4 c cs hreturn hend ih =>
      rw [List.cons_append, lines_cons (by simpa using hend)]
      cases cs with
      | nil => exact Or.inl rfl
      | cons d cs =>
          have hne : lines (d :: cs) ≠ [] := lines_ne_nil (List.cons_ne_nil d cs)
          rcases ih with h | h
          · exact Or.inl (congrArg (consLine c) h)
          · rw [h, consLine_append hne]
            exact Or.inr rfl

/-! ## Joined lines -/

theorem isLine_of_mem_lines : ∀ l ∈ lines cs, IsLine l := by
  fun_induction lines cs with
  | case1 => exact nofun
  | case2 cs ih => exact List.forall_mem_cons.2 ⟨.nil, ih⟩
  | case3 c cs hreturn hend ih => exact List.forall_mem_cons.2 ⟨.nil, ih⟩
  | case4 c cs hreturn hend ih =>
      have hc : isLineEnd c = false := by simpa using hend
      cases hcs : lines cs with
      | nil => exact List.forall_mem_singleton.2 (List.forall_mem_singleton.2 hc)
      | cons k ks =>
          rw [hcs, List.forall_mem_cons] at ih
          exact List.forall_mem_cons.2 ⟨List.forall_mem_cons.2 ⟨hc, ih.1⟩, ih.2⟩

/-- Lines come back from the text that joins them, unless the last one has no characters. -/
theorem lines_join (hls : ∀ l ∈ ls, IsLine l) (hlast : ls.getLast? ≠ some []) : lines (join ['\n'] ls) = ls := by
  induction ls with
  | nil => rfl
  | cons l ls ih =>
      rw [List.forall_mem_cons] at hls
      cases ls with
      | nil => exact lines_of_isLine hls.1 fun hl => hlast (congrArg some hl)
      | cons k ks =>
          rw [List.getLast?_cons_cons] at hlast
          rw [join_cons_cons, lines_append_newline hls.1, ih hls.2 hlast]

theorem join_consLine (ls : List (List Char)) : join ['\n'] (consLine c ls) = c :: join ['\n'] ls := by
  rcases ls with _ | ⟨l, _ | ⟨k, ks⟩⟩
  · rfl
  · rfl
  · rw [consLine, join_cons_cons, join_cons_cons, List.cons_append]

/-- The lines of a text give the text back if they are joined, provided that only line feeds are between them and none
is behind them. -/
theorem join_lines (hends : ∀ c ∈ cs, isLineEnd c = true → c = '\n') (hlast : cs.getLast? ≠ some '\n') :
    join ['\n'] (lines cs) = cs := by
  fun_induction lines cs with
  | case1 => rfl
  | case2 cs ih => exact absurd (hends '\r' List.mem_cons_self (by decide)) (by decide)
  | case3 c cs hreturn hend ih =>
      rw [List.forall_mem_cons] at hends
      obtain rfl := hends.1 hend
      cases cs with
      | nil => exact absurd rfl hlast
      | cons d cs =>
          rw [List.getLast?_cons_cons] at hlast
          rw [join_cons_of_ne_nil [] (lines_ne_nil (List.cons_ne_nil d cs)), ih hends.2 hlast, List.nil_append]
  | case4 c cs hreturn hend ih =>
      rw [List.forall_mem_cons] at hends
      rw [join_consLine]
      cases cs with
      | nil => rfl
      | cons d cs =>
          rw [List.getLast?_cons_cons] at hlast
          rw [ih hends.2 hlast]

end Conventions.Text
