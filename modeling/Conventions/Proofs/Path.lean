import Conventions.Proofs.Text
import Conventions.Request

/-!
# Paths as text

A path is shown as its segments with slashes between them. Segments without slashes come back from the text, so
that distinct paths are shown differently.
-/

namespace Conventions

variable {ss ts : List String}

theorem toList_displayPath (ss : List String) : (displayPath ss).toList = Text.join ['/'] (ss.map String.toList) :=
  Text.toList_intercalate_eq_join "/" ss

theorem splitOn_displayPath (hne : ss ≠ []) (h : ∀ s ∈ ss, '/' ∉ s.toList) :
    Text.splitOn '/' (displayPath ss).toList = ss.map String.toList := by
  rw [toList_displayPath]
  refine Text.splitOn_join ?_ ?_
  · simpa using hne
  · rwa [List.forall_mem_map]

theorem displayPath_inj (hs : ss ≠ []) (ht : ts ≠ []) (hss : ∀ s ∈ ss, '/' ∉ s.toList)
    (hts : ∀ s ∈ ts, '/' ∉ s.toList) : displayPath ss = displayPath ts ↔ ss = ts := by
  refine ⟨fun h => ?_, congrArg displayPath⟩
  have hmap : ss.map String.toList = ts.map String.toList := by
    rw [← splitOn_displayPath hs hss, ← splitOn_displayPath ht hts, h]
  exact (List.map_inj_right fun _ _ => String.toList_inj.1).1 hmap

end Conventions

namespace Conventions.Path

variable {s : String} {sep : Char} {cs f : List Char}

theorem components_cons_self : components sep (sep :: cs) = components sep cs := by
  simp [components, Text.splitOn_cons_self]

theorem components_dropWhile : components sep (cs.dropWhile (· = sep)) = components sep cs := by
  induction cs with
  | nil => rfl
  | cons c cs ih =>
      by_cases hc : c = sep
      · rw [List.dropWhile_cons_of_pos (by simpa using hc), ih, hc, components_cons_self]
      · rw [List.dropWhile_cons_of_neg (by simpa using hc)]

theorem sep_not_mem_of_mem_components (h : f ∈ components sep cs) : sep ∉ f :=
  Text.not_mem_of_mem_splitOn f (List.mem_filter.1 h).1

theorem mem_of_mem_components {c : Char} (h : f ∈ components sep cs) (hc : c ∈ f) : c ∈ cs :=
  Text.mem_of_mem_splitOn (List.mem_filter.1 h).1 hc

theorem splitRoot_snd : (splitRoot cs).2 = cs.dropWhile (· = '/') := by
  unfold splitRoot
  dsimp only
  split
  · rfl
  · split <;> rfl

theorem splitRoot_fst (cs : List Char) :
    (splitRoot cs).1 = [] ∨ (splitRoot cs).1 = ['/'] ∨ (splitRoot cs).1 = ['/', '/'] := by
  unfold splitRoot
  dsimp only
  split
  · exact Or.inl rfl
  · split
    · exact Or.inr (Or.inr rfl)
    · exact Or.inr (Or.inl rfl)

/-- A path that does not begin with a slash has no root. -/
theorem splitRoot_eq (h : cs.head? ≠ some '/') : splitRoot cs = ([], cs) := by
  cases cs with
  | nil => rfl
  | cons c cs =>
      have hc : c ≠ '/' := fun he => h (he ▸ rfl)
      simp [splitRoot, hc]

theorem parts_parse : (parse s).parts = (components '/' s.toList).map String.ofList := by
  rw [parse, splitRoot_snd, components_dropWhile]

/-- Two slashes at the beginning of a path, and no other number of them, are one of its segments. -/
def doubleRoot (cs : List Char) : List (List Char) :=
  if (splitRoot cs).1 = ['/', '/'] then [['/', '/']] else []

/-- A path without backslashes has its components as segments, behind two slashes if it begins so. -/
theorem segments_of_not_mem (h : '\\' ∉ s.toList) :
    segments s = (doubleRoot s.toList ++ components '/' s.toList).map String.ofList := by
  have hcomponents : (components '/' s.toList).filter (fun p => p ≠ ['/'] ∧ p ≠ ['\\']) =
      components '/' s.toList := by
    rw [List.filter_eq_self]
    intro f hf
    have hslash : f ≠ ['/'] := fun he => sep_not_mem_of_mem_components hf (by simp [he])
    have hback : f ≠ ['\\'] := fun he => h (mem_of_mem_components hf (by simp [he]))
    simp [hslash, hback]
  have hparts : (slashParts s.toList).filter (fun p => p ≠ ['/'] ∧ p ≠ ['\\']) =
      doubleRoot s.toList ++ components '/' s.toList := by
    rw [slashParts, splitRoot_snd, components_dropWhile, doubleRoot]
    rcases splitRoot_fst s.toList with hroot | hroot | hroot <;>
      simpa [hroot] using hcomponents
  rw [segments, if_neg (by simpa using h), hparts]

theorem parts_parse_eq_filter (h : '\\' ∉ s.toList) :
    (parse s).parts = (segments s).filter (· ≠ "//") := by
  have hcomponents : (components '/' s.toList).filter (fun p => String.ofList p ≠ "//") =
      components '/' s.toList := by
    rw [List.filter_eq_self]
    intro f hf
    have hslash : String.ofList f ≠ "//" := by
      intro he
      have hf' := sep_not_mem_of_mem_components hf
      rw [← String.toList_ofList (l := f), he] at hf'
      exact absurd hf' (by decide)
    simpa using hslash
  have hdouble : (doubleRoot s.toList).filter (fun p => String.ofList p ≠ "//") = [] := by
    unfold doubleRoot
    split <;> decide
  rw [segments_of_not_mem h, parts_parse, List.filter_map, Function.comp_def, List.filter_append,
    hcomponents, hdouble, List.nil_append]

/-- The name of a file is the same in all spellings of its path. -/
theorem name_parse_congr {t : String} (hs : '\\' ∉ s.toList) (ht : '\\' ∉ t.toList)
    (h : segments s = segments t) : (parse s).name = (parse t).name := by
  rw [name, name, parts_parse_eq_filter hs, parts_parse_eq_filter ht, h]

theorem name_parse_of_splitOn {init : List (List Char)} {f : List Char}
    (h : Text.splitOn '/' s.toList = init ++ [f]) (hne : f ≠ []) (hdot : f ≠ ['.']) :
    (parse s).name = String.ofList f := by
  have hcomponents : components '/' s.toList = init.filter (fun p => p ≠ [] ∧ p ≠ ['.']) ++ [f] := by
    rw [components, h, List.filter_append]
    simp [hne, hdot]
  rw [name, parts_parse, hcomponents, List.map_append, List.map_singleton, List.getLast?_concat,
    Option.getD_some]

theorem backslash_not_mem_toSlashes (s : String) : '\\' ∉ (toSlashes s).toList := by
  rw [toSlashes, String.toList_ofList]
  exact Text.not_mem_replaceChar (by decide)

theorem toSlashes_of_not_mem (h : '\\' ∉ s.toList) : toSlashes s = s := by
  rw [toSlashes, Text.replaceChar_of_not_mem h, String.ofList_toList]

/-! ## Tidy paths -/

/-- Whether a path does not begin or end with a slash and has no component that is a single point. -/
def IsTidy (s : String) : Prop :=
  (Text.splitOn '/' s.toList).head? ≠ some [] ∧ (Text.splitOn '/' s.toList).getLast? ≠ some [] ∧
    ['.'] ∉ Text.splitOn '/' s.toList

instance : Decidable (IsTidy s) := inferInstanceAs (Decidable (_ ∧ _))

theorem name_parse_of_isTidy {f : List Char} (h : IsTidy s)
    (hf : (Text.splitOn '/' s.toList).getLast? = some f) : (parse s).name = String.ofList f := by
  obtain ⟨_, hlast, hdot⟩ := h
  obtain ⟨init, hfields⟩ := List.getLast?_eq_some_iff.1 hf
  refine name_parse_of_splitOn hfields (fun he => hlast (he ▸ hf)) fun he => ?_
  rw [hfields, he] at hdot
  exact hdot (by simp)

theorem segments_of_isTidy (hs : '\\' ∉ s.toList) (h : IsTidy s) :
    (segments s).map String.toList = (Text.splitOn '/' s.toList).filter (· ≠ []) := by
  obtain ⟨hfirst, _, hdot⟩ := h
  have hhead : s.toList.head? ≠ some '/' := by
    intro hslash
    obtain ⟨cs, hcs⟩ := List.head?_eq_some_iff.1 hslash
    rw [hcs, Text.splitOn_cons_self] at hfirst
    exact hfirst rfl
  have hcomponents : components '/' s.toList = (Text.splitOn '/' s.toList).filter (· ≠ []) := by
    refine List.filter_congr ?_
    intro f hf
    have hne : f ≠ ['.'] := fun he => hdot (he ▸ hf)
    simp [hne]
  rw [segments_of_not_mem hs, doubleRoot, splitRoot_eq hhead, hcomponents]
  simp

end Conventions.Path
