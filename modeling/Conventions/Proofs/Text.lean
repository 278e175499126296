import Mathlib.Data.List.DropRight
import Mathlib.Data.List.Infix
import Mathlib.Data.List.TakeWhile
import Conventions.Text.Blank
import Conventions.Text.Order
import Conventions.Text.Split
import Conventions.Text.Uppercase

/-!
# Characters and fields

Letters and digits of ASCII by their code points, and fields between separators: fields without the
separator come back from the text that joins them. A text that is trimmed at its end keeps everything up to its last
character that is not blank.
-/

namespace Conventions.Text

/-! ## Letters and digits -/

theorem isDigit_iff {c : Char} : c.isDigit = true ↔ 48 ≤ c.toNat ∧ c.toNat ≤ 57 := by
  simp [Char.isDigit, UInt32.le_iff_toNat_le]

theorem isLower_iff {c : Char} : c.isLower = true ↔ 97 ≤ c.toNat ∧ c.toNat ≤ 122 := by
  show (decide (c.val ≥ 97) && decide (c.val ≤ 122)) = true ↔ _
  simp [UInt32.le_iff_toNat_le]

theorem isUpper_iff {c : Char} : c.isUpper = true ↔ 65 ≤ c.toNat ∧ c.toNat ≤ 90 := by
  show decide (c.val ≥ 65 ∧ c.val ≤ 90) = true ↔ _
  simp [UInt32.le_iff_toNat_le]

theorem isAlpha_iff {c : Char} : c.isAlpha = true ↔ c.isUpper = true ∨ c.isLower = true := Bool.or_eq_true_iff

theorem isAlpha_eq_false_of_isDigit {c : Char} (h : c.isDigit = true) : c.isAlpha = false := by
  rw [Bool.eq_false_iff]
  intro ha
  rw [isDigit_iff] at h
  rw [isAlpha_iff, isUpper_iff, isLower_iff] at ha
  omega

theorem isUpper_eq_false_of_lt {c : Char} (h : c.toNat < 128) (hc : c.isUpper = false) :
    isUpper c = false := by
  rw [isUpper, if_pos h, hc]

/-! ## Initial parts -/

variable {p : Char → Bool} {sep c : Char} {cs rest : List Char}

theorem takeWhile_append_of_head (h : ∀ c ∈ cs, p c = true)
    (hr : ∀ c, rest.head? = some c → p c = false) : (cs ++ rest).takeWhile p = cs := by
  rw [List.takeWhile_append_of_pos h]
  cases rest with
  | nil => exact List.append_nil cs
  | cons c rest => rw [List.takeWhile_cons_of_neg (by simp [hr c rfl]), List.append_nil]

theorem dropWhile_of_head (h : ∀ c, cs.head? = some c → p c = false) : cs.dropWhile p = cs := by
  cases cs with
  | nil => rfl
  | cons c cs => exact List.dropWhile_cons_of_neg (by simp [h c rfl])

theorem dropWhile_append_of_head (h : ∀ c ∈ cs, p c = true)
    (hr : ∀ c, rest.head? = some c → p c = false) : (cs ++ rest).dropWhile p = rest := by
  rw [List.dropWhile_append_of_pos h, dropWhile_of_head hr]

theorem takeWhile_prefix_takeWhile (h : rest <+: cs) : rest.takeWhile p <+: cs.takeWhile p := by
  obtain ⟨t, rfl⟩ := h
  rw [List.takeWhile_append]
  split
  · rename_i hall
    rw [(List.takeWhile_prefix p).eq_of_length hall]
    exact List.prefix_append rest _
  · exact List.prefix_rfl

theorem not_mem_before (sep : Char) (cs : List Char) : sep ∉ before sep cs := by
  intro h
  simpa using List.mem_takeWhile_imp h

theorem ne_of_not_mem (h : sep ∉ cs) : ∀ c ∈ cs, decide (c ≠ sep) = true := by
  intro c hc
  have hne : c ≠ sep := fun he => h (he ▸ hc)
  simpa using hne

theorem before_of_not_mem (h : sep ∉ cs) : before sep cs = cs :=
  List.takeWhile_eq_self_iff.2 (ne_of_not_mem h)

theorem before_append (h : sep ∉ cs) : before sep (cs ++ sep :: rest) = cs :=
  takeWhile_append_of_head (ne_of_not_mem h) (by simp)

theorem dropWhile_ne_append (h : sep ∉ cs) : (cs ++ sep :: rest).dropWhile (· ≠ sep) = sep :: rest :=
  dropWhile_append_of_head (ne_of_not_mem h) (by simp)

theorem after_append (h : sep ∉ cs) : after sep (cs ++ sep :: rest) = rest := by
  rw [after, dropWhile_ne_append h, List.drop_one, List.tail_cons]

theorem before_append_after (h : sep ∈ cs) : before sep cs ++ sep :: after sep cs = cs := by
  obtain ⟨as, bs, rfl, has⟩ := List.eq_append_cons_of_mem h
  rw [before_append has, after_append has]

theorem after_append_of_mem (h : sep ∈ cs) : after sep (cs ++ rest) = after sep cs ++ rest := by
  obtain ⟨as, bs, rfl, has⟩ := List.eq_append_cons_of_mem h
  rw [List.append_assoc, List.cons_append, after_append has, after_append has]

/-! ## Fields -/

theorem splitOn_cons_self : splitOn sep (sep :: cs) = [] :: splitOn sep cs := by
  cases h : splitOn sep cs with
  | nil => exact absurd h (splitOn_ne_nil sep cs)
  | cons f fs => simp only [splitOn, h, if_true]

theorem splitOn_cons_of_ne {f : List Char} {fs : List (List Char)} (hc : c ≠ sep)
    (h : splitOn sep cs = f :: fs) : splitOn sep (c :: cs) = (c :: f) :: fs := by
  simp only [splitOn, h, if_neg hc]

theorem splitOn_of_not_mem (h : sep ∉ cs) : splitOn sep cs = [cs] := by
  induction cs with
  | nil => rfl
  | cons a cs ih =>
      rw [List.mem_cons, not_or] at h
      exact splitOn_cons_of_ne (Ne.symm h.1) (ih h.2)

theorem join_cons_cons {f g : List Char} {fs : List (List Char)} :
    join [sep] (f :: g :: fs) = f ++ sep :: join [sep] (g :: fs) := by
  simp [join]

theorem join_cons_of_ne_nil {fs : List (List Char)} (f : List Char) (h : fs ≠ []) :
    join [sep] (f :: fs) = f ++ sep :: join [sep] fs := by
  obtain ⟨g, gs, rfl⟩ := List.exists_cons_of_ne_nil h
  exact join_cons_cons

theorem join_append (fs : List (List Char)) {gs : List (List Char)} (h : gs ≠ []) :
    join [sep] (fs ++ gs) = fs.flatMap (· ++ [sep]) ++ join [sep] gs := by
  induction fs with
  | nil => rfl
  | cons f fs ih =>
      rw [List.cons_append, join_cons_of_ne_nil f (List.append_ne_nil_of_right_ne_nil fs h), ih, List.flatMap_cons]
      simp

theorem flatMap_concat_sep {fs : List (List Char)} (h : fs ≠ []) :
    fs.flatMap (· ++ [sep]) = join [sep] fs ++ [sep] := by
  obtain ⟨init, l, rfl⟩ := (List.eq_nil_or_concat fs).resolve_left h
  rw [List.concat_eq_append, join_append init (List.cons_ne_nil l []), List.flatMap_append]
  simp [join]

theorem join_concat {fs : List (List Char)} (h : fs ≠ []) (f : List Char) :
    join [sep] (fs ++ [f]) = join [sep] fs ++ sep :: f := by
  rw [join_append fs (List.cons_ne_nil f []), flatMap_concat_sep h, List.append_assoc]
  rfl

theorem splitOn_append_cons (cs rest : List Char) :
    splitOn sep (cs ++ sep :: rest) = splitOn sep cs ++ splitOn sep rest := by
  induction cs with
  | nil => exact splitOn_cons_self
  | cons c cs ih =>
      obtain ⟨f, fs, hcs⟩ := List.exists_cons_of_ne_nil (splitOn_ne_nil sep cs)
      rw [hcs, List.cons_append] at ih
      by_cases hc : c = sep
      · rw [List.cons_append, hc, splitOn_cons_self, splitOn_cons_self, ih, hcs]
        rfl
      · rw [List.cons_append, splitOn_cons_of_ne hc ih, splitOn_cons_of_ne hc hcs]
        rfl

theorem length_splitOn (sep : Char) (cs : List Char) : (splitOn sep cs).length = cs.count sep + 1 := by
  induction cs with
  | nil => rfl
  | cons c cs ih =>
      obtain ⟨f, fs, hcs⟩ := List.exists_cons_of_ne_nil (splitOn_ne_nil sep cs)
      rw [hcs] at ih
      by_cases hc : c = sep
      · rw [hc, splitOn_cons_self, hcs, List.length_cons, ih, List.count_cons_self]
      · rw [splitOn_cons_of_ne hc hcs, List.length_cons, List.count_cons_of_ne hc]
        exact ih

/-- Splitting joined fields splits every field. -/
theorem splitOn_join_eq_flatMap {fs : List (List Char)} (hne : fs ≠ []) :
    splitOn sep (join [sep] fs) = fs.flatMap (splitOn sep) := by
  induction fs with
  | nil => exact absurd rfl hne
  | cons f fs ih =>
      cases fs with
      | nil => exact (List.append_nil _).symm
      | cons g gs =>
          rw [join_cons_cons, splitOn_append_cons, ih (List.cons_ne_nil g gs)]
          exact List.flatMap_cons.symm

/-- Fields without the separator are what splitting gives back. -/
theorem splitOn_join {fs : List (List Char)} (hne : fs ≠ []) (h : ∀ f ∈ fs, sep ∉ f) :
    splitOn sep (join [sep] fs) = fs := by
  rw [splitOn_join_eq_flatMap hne, List.flatMap_congr fun f hf => splitOn_of_not_mem (h f hf)]
  exact List.flatMap_singleton' fs

theorem filter_splitOn_dropWhile (sep : Char) (cs : List Char) :
    (splitOn sep (cs.dropWhile (· = sep))).filter (· ≠ []) = (splitOn sep cs).filter (· ≠ []) := by
  induction cs with
  | nil => rfl
  | cons c cs ih =>
      by_cases hc : c = sep
      · rw [List.dropWhile_cons_of_pos (by simpa using hc), ih, hc, splitOn_cons_self,
          List.filter_cons_of_neg (by simp)]
      · rw [List.dropWhile_cons_of_neg (by simpa using hc)]

theorem flatten_splitOn (sep : Char) (cs : List Char) : (splitOn sep cs).flatten = cs.filter (· ≠ sep) := by
  induction cs with
  | nil => rfl
  | cons c cs ih =>
      obtain ⟨f, fs, hcs⟩ := List.exists_cons_of_ne_nil (splitOn_ne_nil sep cs)
      by_cases hc : c = sep
      · rw [hc, splitOn_cons_self, List.flatten_cons, List.nil_append, ih, List.filter_cons_of_neg (by simp)]
      · rw [hcs, List.flatten_cons] at ih
        rw [splitOn_cons_of_ne hc hcs, List.flatten_cons, List.cons_append, ih,
          List.filter_cons_of_pos (by simpa using hc)]

theorem exists_getLast?_splitOn (sep : Char) (cs : List Char) :
    ∃ f, (splitOn sep cs).getLast? = some f :=
  ⟨_, List.getLast?_eq_some_getLast (splitOn_ne_nil sep cs)⟩

theorem not_mem_of_mem_splitOn : ∀ f ∈ splitOn sep cs, sep ∉ f := by
  induction cs with
  | nil => simp [splitOn]
  | cons c cs ih =>
      obtain ⟨g, gs, hcs⟩ := List.exists_cons_of_ne_nil (splitOn_ne_nil sep cs)
      rw [hcs] at ih
      by_cases hc : c = sep
      · rw [hc, splitOn_cons_self, hcs]
        exact List.forall_mem_cons.2 ⟨List.not_mem_nil, ih⟩
      · rw [splitOn_cons_of_ne hc hcs]
        rw [List.forall_mem_cons] at ih ⊢
        exact ⟨List.not_mem_cons_of_ne_of_not_mem (Ne.symm hc) ih.1, ih.2⟩

theorem mem_of_mem_join {sep : List Char} {fs : List (List Char)} (h : c ∈ join sep fs) :
    c ∈ sep ∨ ∃ f ∈ fs, c ∈ f := by
  induction fs with
  | nil => cases h
  | cons f fs ih =>
      cases fs with
      | nil => exact Or.inr ⟨f, List.mem_cons_self, h⟩
      | cons g gs =>
          have hc : c ∈ f ∨ c ∈ sep ∨ c ∈ join sep (g :: gs) := by simpa [join] using h
          rcases hc with hf | hsep | hrest
          · exact Or.inr ⟨f, List.mem_cons_self, hf⟩
          · exact Or.inl hsep
          · rcases ih hrest with hsep | ⟨w, hw, hcw⟩
            · exact Or.inl hsep
            · exact Or.inr ⟨w, List.mem_cons_of_mem f hw, hcw⟩

theorem mem_join_of_mem {sep f : List Char} {fs : List (List Char)} (hf : f ∈ fs) (hc : c ∈ f) :
    c ∈ join sep fs := by
  induction fs with
  | nil => cases hf
  | cons g fs ih =>
      cases fs with
      | nil =>
          obtain rfl := List.mem_singleton.1 hf
          exact hc
      | cons k ks =>
          rw [join, List.mem_append, List.mem_append]
          rcases List.mem_cons.1 hf with rfl | hf
          · exact Or.inl (Or.inl hc)
          · exact Or.inr (ih hf)
          · simp

theorem mem_of_mem_splitOn {f : List Char} (hf : f ∈ splitOn sep cs) (hc : c ∈ f) : c ∈ cs := by
  rw [← join_splitOn sep cs]
  exact mem_join_of_mem hf hc

theorem replaceChar_of_not_mem {w : List Char} (h : c ∉ cs) : replaceChar c w cs = cs := by
  induction cs with
  | nil => rfl
  | cons d cs ih =>
      rw [List.mem_cons, not_or] at h
      have ih' := ih h.2
      rw [replaceChar] at ih' ⊢
      rw [List.flatMap_cons, if_neg (Ne.symm h.1), ih', List.singleton_append]

theorem not_mem_replaceChar {w : List Char} (h : c ∉ w) : c ∉ replaceChar c w cs := by
  rw [replaceChar, List.mem_flatMap]
  rintro ⟨d, _, hd⟩
  split at hd
  · exact h hd
  · rename_i hne
    exact hne (List.mem_singleton.1 hd).symm

theorem join_eq_intercalate (sep : List Char) (fs : List (List Char)) : join sep fs = sep.intercalate fs := by
  induction fs with
  | nil => rfl
  | cons f fs ih =>
      cases fs with
      | nil => exact (List.intercalate_singleton).symm
      | cons g gs => rw [join, ih, List.intercalate_cons_cons, List.append_assoc]; simp

theorem toList_intercalate_eq_join (sep : String) (ss : List String) :
    (sep.intercalate ss).toList = join sep.toList (ss.map String.toList) := by
  rw [String.toList_intercalate, join_eq_intercalate]

/-! ## Beginnings and ends of joined fields -/

variable {w f g : List Char} {fs : List (List Char)}

theorem isPrefix_append_cons_iff (hw : sep ∉ w) : w <+: f ++ sep :: rest ↔ w <+: f := by
  refine ⟨fun h => ?_, fun h => h.trans (List.prefix_append f _)⟩
  rcases List.prefix_or_prefix_of_prefix h (List.prefix_append f _) with hwf | ⟨t, rfl⟩
  · exact hwf
  · cases t with
    | nil => simp
    | cons c t =>
        obtain ⟨rfl, _⟩ := List.cons_prefix_cons.1 ((List.prefix_append_right_inj f).1 h)
        simp at hw

theorem isPrefix_before_iff (hw : sep ∉ w) : w <+: before sep cs ↔ w <+: cs := by
  by_cases h : sep ∈ cs
  · conv_rhs => rw [← before_append_after h]
    rw [isPrefix_append_cons_iff hw]
  · rw [before_of_not_mem h]

theorem isSuffix_append_cons_iff (hw : sep ∉ w) : w <:+ f ++ sep :: rest ↔ w <:+ rest := by
  have hsuffix : rest <:+ f ++ sep :: rest := (List.suffix_cons sep rest).trans (List.suffix_append f _)
  refine ⟨fun h => ?_, fun h => h.trans hsuffix⟩
  -- an end that is longer than the rest would have the separator in it
  rcases List.suffix_or_suffix_of_suffix h hsuffix with hwr | ⟨t, rfl⟩
  · exact hwr
  · rcases List.eq_nil_or_concat t with rfl | ⟨t, c, rfl⟩
    · simp
    · obtain ⟨s, hs⟩ := h
      have hend : (s ++ t) ++ [c] = f ++ [sep] := by
        have hall : (s ++ t ++ [c]) ++ rest = (f ++ [sep]) ++ rest := by simpa using hs
        exact List.append_cancel_right hall
      have hc : c = sep := by simpa using congrArg List.getLast? hend
      simp [hc] at hw

theorem isInfix_append_cons_iff (hf : sep ∉ f) :
    (sep :: w) <:+: f ++ sep :: rest ↔ w <+: rest ∨ (sep :: w) <:+: rest := by
  induction f with
  | nil => simp [List.infix_cons_iff]
  | cons c f ih =>
      rw [List.mem_cons, not_or] at hf
      rw [List.cons_append, List.infix_cons_iff, ih hf.2]
      simp [hf.1]

theorem isInfix_append_sep_iff (hw : sep ∉ w) (hne : w ≠ []) :
    w <:+: f ++ sep :: rest ↔ w <:+: f ∨ w <:+: rest := by
  induction f with
  | nil =>
      have hprefix : ¬w <+: sep :: rest := by
        intro h
        rcases List.prefix_cons_iff.1 h with hnil | ⟨t, rfl, _⟩
        · exact hne hnil
        · exact hw List.mem_cons_self
      rw [List.nil_append, List.infix_cons_iff, List.infix_nil, or_iff_right hprefix, or_iff_right hne]
  | cons c f ih =>
      rw [List.cons_append, List.infix_cons_iff, ih, ← List.cons_append, isPrefix_append_cons_iff hw,
        List.infix_cons_iff, or_assoc]

/-- A text without the separator begins joined fields if it begins the first one. -/
theorem isPrefix_join_iff (hw : sep ∉ w) : w <+: join [sep] (f :: fs) ↔ w <+: f := by
  cases fs with
  | nil => rfl
  | cons g gs => rw [join_cons_cons, isPrefix_append_cons_iff hw]

theorem isPrefix_concat_join_iff (hw : sep ∉ w) (hf : sep ∉ f) :
    w ++ [sep] <+: join [sep] (f :: fs) ↔ f = w ∧ fs ≠ [] := by
  cases fs with
  | nil =>
      simp only [join, ne_eq, not_true_eq_false, and_false, iff_false]
      intro h
      exact hf (h.subset (by simp))
  | cons g gs =>
      rw [join_cons_cons]
      constructor
      · rintro ⟨t, ht⟩
        rw [List.append_assoc, List.singleton_append] at ht
        have hbefore := congrArg (before sep) ht
        rw [before_append hw, before_append hf] at hbefore
        exact ⟨hbefore.symm, List.cons_ne_nil g gs⟩
      · rintro ⟨rfl, _⟩
        exact ⟨join [sep] (g :: gs), by simp⟩

/-- A text without the separator ends joined fields if it ends the last one. -/
theorem isSuffix_join_iff (hw : sep ∉ w) (hf : fs.getLast? = some f) :
    w <:+ join [sep] fs ↔ w <:+ f := by
  induction fs with
  | nil => cases hf
  | cons g fs ih =>
      cases fs with
      | nil =>
          obtain rfl : g = f := by simpa using hf
          rfl
      | cons k ks =>
          rw [List.getLast?_cons_cons] at hf
          rw [join_cons_cons, isSuffix_append_cons_iff hw, ih hf]

/-- A text behind a separator stands in joined fields if it begins one after the first one. -/
theorem isInfix_join_iff (hw : sep ∉ w) (h : ∀ f ∈ fs, sep ∉ f) :
    (sep :: w) <:+: join [sep] fs ↔ ∃ f ∈ fs.tail, w <+: f := by
  induction fs with
  | nil => simp [join]
  | cons f fs ih =>
      rw [List.forall_mem_cons] at h
      cases fs with
      | nil =>
          simp only [join, List.tail_cons, List.not_mem_nil, false_and, exists_false, iff_false]
          intro hw
          exact h.1 (hw.subset List.mem_cons_self)
      | cons g gs =>
          rw [join_cons_cons, isInfix_append_cons_iff h.1, isPrefix_join_iff hw, ih h.2]
          simp

/-! ## Trimmed ends -/

section Ends

variable {α : Type} {p : α → Bool} {xs ys : List α}

theorem dropEndWhile_append_of_all (h : ∀ y ∈ ys, p y = true) : dropEndWhile p (xs ++ ys) = dropEndWhile p xs := by
  have hy : ∀ y ∈ ys.reverse, p y = true := fun y hy => h y (List.mem_reverse.1 hy)
  rw [dropEndWhile, List.reverse_append, List.dropWhile_append_of_pos hy, dropEndWhile]

theorem dropEndWhile_append_of_ne_nil (h : dropEndWhile p ys ≠ []) :
    dropEndWhile p (xs ++ ys) = xs ++ dropEndWhile p ys := by
  have hy : ys.reverse.dropWhile p ≠ [] := fun he => h (by rw [dropEndWhile, he, List.reverse_nil])
  rw [dropEndWhile, List.reverse_append, List.dropWhile_append, if_neg (by simpa using hy), List.reverse_append,
    List.reverse_reverse, dropEndWhile]

/-- A text of which no character is dropped begins a text exactly if it begins the text without its end. -/
theorem prefix_dropEndWhile_iff {w : List α} (h : ∀ c ∈ w, p c = false) : w <+: dropEndWhile p xs ↔ w <+: xs := by
  refine ⟨fun hw => hw.trans (List.rdropWhile_prefix p xs), ?_⟩
  rintro ⟨t, rfl⟩
  by_cases ht : dropEndWhile p t = []
  · have hall : ∀ c ∈ t, p c = true := List.rdropWhile_eq_nil_iff.1 ht
    have hself : dropEndWhile p w = w :=
      List.rdropWhile_eq_self_iff.2 fun hne => by simp [h _ (List.getLast_mem hne)]
    rw [dropEndWhile_append_of_all hall, hself]
  · rw [dropEndWhile_append_of_ne_nil ht]
    exact List.prefix_append w _

theorem dropEndWhile_dropEndWhile (p : α → Bool) (xs : List α) :
    dropEndWhile p (dropEndWhile p xs) = dropEndWhile p xs := List.rdropWhile_idempotent p xs

theorem isPrefix_dropEndWhile (p : α → Bool) (xs : List α) : dropEndWhile p xs <+: xs := List.rdropWhile_prefix p xs

/-- What remains without a longest end is what does not end in an element of the kind that was dropped. -/
theorem dropEndWhile_eq_iff : dropEndWhile p xs = ys ↔
    (∃ zs, (∀ z ∈ zs, p z = true) ∧ ys ++ zs = xs) ∧ ∀ y, ys.getLast? = some y → p y = false := by
  constructor
  · rintro rfl
    refine ⟨⟨xs.rtakeWhile p, fun _ hz => List.mem_rtakeWhile_imp hz, List.rdropWhile_append_rtakeWhile⟩, ?_⟩
    intro y hy
    have hne : dropEndWhile p xs ≠ [] := by
      intro hnil
      rw [hnil] at hy
      cases hy
    rw [List.getLast?_eq_some_getLast hne, Option.some.injEq] at hy
    rw [← hy]
    exact Bool.eq_false_iff.2 (List.rdropWhile_last_not p xs hne)
  · rintro ⟨⟨zs, hzs, rfl⟩, hlast⟩
    rw [dropEndWhile_append_of_all hzs]
    exact List.rdropWhile_eq_self_iff.2 fun hne => by simp [hlast _ (List.getLast?_eq_some_getLast hne)]

end Ends

theorem dropEndWhile_of_not_mem {c : Char} {cs : List Char} (h : c ∉ cs) : dropEndWhile (· = c) cs = cs := by
  refine List.rdropWhile_eq_self_iff.2 fun hne => ?_
  have hlast : cs.getLast hne ≠ c := fun he => h (he ▸ List.getLast_mem hne)
  simpa using hlast

theorem filter_splitOn_dropEndWhile (sep : Char) (cs : List Char) :
    (splitOn sep (dropEndWhile (· = sep) cs)).filter (· ≠ []) = (splitOn sep cs).filter (· ≠ []) := by
  induction cs using List.reverseRecOn with
  | nil => rfl
  | append_singleton cs c ih =>
      by_cases hc : c = sep
      · rw [dropEndWhile_append_of_all (by simpa using hc), ih, hc, splitOn_append_cons, List.filter_append]
        simp [splitOn]
      · have hself : dropEndWhile (· = sep) (cs ++ [c]) = cs ++ [c] :=
          List.rdropWhile_eq_self_iff.2 fun _ => by simpa using hc
        rw [hself]

theorem trimEnd_eq_nil_iff : trimEnd cs = [] ↔ allBlank cs = true := by
  rw [trimEnd, allBlank, List.all_eq_true]
  exact List.rdropWhile_eq_nil_iff

theorem trimEnd_append_of_allBlank {bs : List Char} (h : allBlank bs = true) : trimEnd (cs ++ bs) = trimEnd cs :=
  dropEndWhile_append_of_all (List.all_eq_true.1 h)

theorem trim_eq_self (hfirst : ∀ c, cs.head? = some c → isBlank c = false)
    (hlast : ∀ c, cs.getLast? = some c → isBlank c = false) : trim cs = cs := by
  have hstart : trimStart cs = cs := dropWhile_of_head hfirst
  rw [trim, hstart]
  exact List.rdropWhile_eq_self_iff.2 fun hne => by simp [hlast _ (List.getLast?_eq_some_getLast hne)]

/-- The end that is trimmed begins behind a character or not. -/
theorem trimEnd_append_cons (cs : List Char) (c : Char) (rest : List Char) :
    trimEnd (cs ++ c :: rest) = trimEnd cs ∨ ∃ rest', trimEnd (cs ++ c :: rest) = cs ++ c :: rest' := by
  rcases List.prefix_cons_iff.1 (isPrefix_dropEndWhile isBlank (c :: rest)) with hnil | ⟨rest', hcons, _⟩
  · exact Or.inl (trimEnd_append_of_allBlank (trimEnd_eq_nil_iff.1 hnil))
  · refine Or.inr ⟨rest', ?_⟩
    rw [trimEnd, dropEndWhile_append_of_ne_nil (by simp [hcons]), hcons]

theorem exists_trimEnd_append (cs : List Char) : ∃ bs, allBlank bs = true ∧ trimEnd cs ++ bs = cs :=
  ⟨cs.rtakeWhile isBlank, List.all_eq_true.2 fun _ hc => List.mem_rtakeWhile_imp hc,
    List.rdropWhile_append_rtakeWhile⟩

theorem exists_trim_append (cs : List Char) :
    ∃ as bs, allBlank as = true ∧ allBlank bs = true ∧ as ++ (trim cs ++ bs) = cs := by
  obtain ⟨bs, hbs, hend⟩ := exists_trimEnd_append (trimStart cs)
  refine ⟨cs.takeWhile isBlank, bs, List.all_takeWhile, hbs, ?_⟩
  rw [trim, hend, trimStart, List.takeWhile_append_dropWhile]

/-- Whether a text is another one without blanks at its ends. -/
structure IsTrimmed (cs inner : List Char) : Prop where
  append : ∃ front back, (∀ c ∈ front, isBlank c = true) ∧ (∀ c ∈ back, isBlank c = true) ∧
    front ++ (inner ++ back) = cs
  first : ∀ c, inner.head? = some c → isBlank c = false
  last : ∀ c, inner.getLast? = some c → isBlank c = false

theorem trim_eq_iff {inner : List Char} : trim cs = inner ↔ IsTrimmed cs inner := by
  constructor
  · rintro rfl
    obtain ⟨front, back, hfront, hback, happend⟩ := exists_trim_append cs
    refine ⟨⟨front, back, List.all_eq_true.1 hfront, List.all_eq_true.1 hback, happend⟩, ?_,
      (dropEndWhile_eq_iff.1 rfl).2⟩
    intro c hc
    have hc : (dropEndWhile isBlank (trimStart cs)).head? = some c := hc
    obtain ⟨rest, hrest⟩ := isPrefix_dropEndWhile isBlank (trimStart cs)
    have hstart : (cs.dropWhile isBlank).head? = some c := by
      rw [← trimStart, ← hrest, List.head?_append, hc, Option.some_or]
    have hfirst := List.head?_dropWhile_not isBlank cs
    rw [hstart] at hfirst
    exact hfirst
  · rintro ⟨⟨front, back, hfront, hback, rfl⟩, hfirst, hlast⟩
    have hstart : trimStart (front ++ (inner ++ back)) = trimStart (inner ++ back) :=
      List.dropWhile_append_of_pos hfront
    rw [trim, hstart]
    cases inner with
    | nil =>
        have hnothing : trimStart back = [] := List.dropWhile_eq_nil_iff.2 hback
        rw [List.nil_append, hnothing]
        rfl
    | cons c inner =>
        have hkeep : trimStart (c :: inner ++ back) = c :: inner ++ back := dropWhile_of_head hfirst
        rw [hkeep]
        exact dropEndWhile_eq_iff.2 ⟨⟨back, hback, rfl⟩, hlast⟩

theorem allBlank_append {bs : List Char} : allBlank (cs ++ bs) = (allBlank cs && allBlank bs) := List.all_append

/-- What begins a trimmed text with blanks behind it begins the trimmed text, or is that text with blanks behind it. -/
theorem isPrefix_append_blanks {bs : List Char} (htrim : trimEnd cs = cs) (hbs : allBlank bs = true)
    (h : w <+: cs ++ bs) : w <+: cs ∨ trimEnd w = cs := by
  rcases List.prefix_or_prefix_of_prefix h (List.prefix_append cs bs) with hw | ⟨t, rfl⟩
  · exact Or.inl hw
  · have ht : t <+: bs := (List.prefix_append_right_inj cs).1 h
    have hblank : allBlank t = true :=
      List.all_eq_true.2 fun c hc => List.all_eq_true.1 hbs c (ht.subset hc)
    exact Or.inr (by rw [trimEnd_append_of_allBlank hblank, htrim])

/-! ## Texts in order -/

theorem pairwise_sorted (ss : List String) : (sorted ss).Pairwise (· ≤ ·) := by
  have htrans : ∀ a b c : String, atMost a b = true → atMost b c = true → atMost a c = true := by
    simp only [atMost, decide_eq_true_eq]
    exact fun a b c => String.le_trans
  have htotal : ∀ a b : String, (atMost a b || atMost b a) = true := by
    simp only [atMost, Bool.or_eq_true, decide_eq_true_eq]
    exact String.le_total
  exact (List.pairwise_mergeSort htrans htotal ss).imp fun h => of_decide_eq_true h

theorem sorted_congr {ss ts : List String} (h : ss.Perm ts) : sorted ss = sorted ts :=
  List.Perm.eq_of_pairwise (fun _ _ _ _ => String.le_antisymm) (pairwise_sorted ss) (pairwise_sorted ts)
    (((sorted_perm ss).trans h).trans (sorted_perm ts).symm)

end Conventions.Text
