import Mathlib.Data.List.Sort
import Mathlib.Data.String.Basic
import Conventions.CommandLine.Outcome
import Conventions.Proofs.Project

/-!
# The files that git knows

Git separates the paths that it lists by null characters. What is read from its output is the set of these paths in the
order of their code points, whatever their order in the output is, how often they are listed, and how many null characters
stand between them. So a project check reports the same for all outputs that list the same paths.
-/

namespace Conventions

namespace Text

/-! ## Texts in order, each one once -/

variable {ss : List String}

theorem pairwise_dropRepeats (h : ss.Pairwise (· ≤ ·)) : (dropRepeats ss).Pairwise (· < ·) := by
  fun_induction dropRepeats ss with
  | case1 => exact .nil
  | case2 s => exact List.pairwise_singleton _ s
  | case3 s ss ih => exact ih h.of_cons
  | case4 s t ss hne ih =>
      rw [List.pairwise_cons] at h
      have hst : s < t := lt_of_le_of_ne (h.1 t List.mem_cons_self) hne
      refine List.pairwise_cons.2 ⟨fun u hu => ?_, ih h.2⟩
      rcases List.mem_cons.1 (mem_dropRepeats.1 hu) with rfl | hu
      · exact hst
      · exact lt_of_lt_of_le hst (List.rel_of_pairwise_cons h.2 hu)

theorem pairwise_sortedDistinct (ss : List String) : (sortedDistinct ss).Pairwise (· < ·) :=
  pairwise_dropRepeats (pairwise_sorted ss)

/-- The code points of a text. -/
def codes (s : String) : List Nat := s.toList.map Char.toNat

theorem map_toNat_lt_iff {cs ds : List Char} : cs.map Char.toNat < ds.map Char.toNat ↔ cs < ds := by
  induction cs generalizing ds with
  | nil => cases ds <;> simp
  | cons c cs ih =>
      cases ds with
      | nil => simp
      | cons d ds =>
          rw [List.map_cons, List.map_cons, List.cons_lt_cons_iff, List.cons_lt_cons_iff, ih, Char.toNat_inj]
          rfl

/-- Texts are in the order of their code points, the first difference decides. -/
theorem codes_lt_iff {s t : String} : codes s < codes t ↔ s < t := map_toNat_lt_iff

/-! ## Fields between separators -/

/-- Whether a text is a field of another one: it has no separator in it, and it stands between two separators if one is put
at each end of the other text. -/
def IsField (sep : Char) (f cs : List Char) : Prop := sep ∉ f ∧ sep :: (f ++ [sep]) <:+: sep :: (cs ++ [sep])

variable {sep : Char} {f g cs rest : List Char} {fs : List (List Char)}

theorem isPrefix_append_sep_iff (hf : sep ∉ f) (hg : sep ∉ g) : f ++ [sep] <+: g ++ sep :: rest ↔ f = g := by
  constructor
  · rintro ⟨t, ht⟩
    have hfield : before sep (f ++ sep :: t) = f := before_append hf
    rw [List.append_assoc, List.singleton_append] at ht
    rw [← hfield, ht, before_append hg]
  · rintro rfl
    exact ⟨rest, by simp⟩

theorem isInfix_flatMap_sep_iff (hf : sep ∉ f) (h : ∀ g ∈ fs, sep ∉ g) :
    sep :: (f ++ [sep]) <:+: sep :: fs.flatMap (· ++ [sep]) ↔ f ∈ fs := by
  induction fs with
  | nil =>
      refine iff_of_false (fun hin => ?_) List.not_mem_nil
      have hlength := hin.length_le
      rw [List.flatMap_nil, List.length_cons, List.length_append] at hlength
      simp at hlength
  | cons g fs ih =>
      rw [List.forall_mem_cons] at h
      have hrest : f ++ [sep] <+: fs.flatMap (· ++ [sep]) ∨ sep :: (f ++ [sep]) <:+: fs.flatMap (· ++ [sep]) ↔ f ∈ fs := by
        rw [← ih h.2, List.infix_cons_iff, List.cons_prefix_cons, and_iff_right rfl]
      rw [List.flatMap_cons, List.append_assoc, List.singleton_append, List.infix_cons_iff, List.cons_prefix_cons,
        and_iff_right rfl, isPrefix_append_sep_iff hf h.1, isInfix_append_cons_iff h.1, hrest, List.mem_cons]

theorem mem_splitOn_iff : f ∈ splitOn sep cs ↔ IsField sep f cs := by
  have hfields : (splitOn sep cs).flatMap (· ++ [sep]) = cs ++ [sep] := by
    rw [flatMap_concat_sep (splitOn_ne_nil sep cs), join_splitOn]
  have hfield (hf : sep ∉ f) : sep :: (f ++ [sep]) <:+: sep :: (cs ++ [sep]) ↔ f ∈ splitOn sep cs := by
    rw [← hfields, isInfix_flatMap_sep_iff hf not_mem_of_mem_splitOn]
  constructor
  · intro h
    have hf := not_mem_of_mem_splitOn f h
    exact ⟨hf, (hfield hf).2 h⟩
  · rintro ⟨hf, h⟩
    exact (hfield hf).1 h

end Text

/-! ## Listings -/

namespace Git

/-- Whether an output lists a path: the path is not empty, and it is a field between null characters. -/
def Lists (stdout path : String) : Prop := path ≠ "" ∧ Text.IsField '\x00' path.toList stdout.toList

/-- Whether paths are what an output lists, in the order of their code points and each one once. -/
structure IsListing (stdout : String) (paths : List String) : Prop where
  increasing : paths.Pairwise fun p q => Text.codes p < Text.codes q
  mem_iff : ∀ p, p ∈ paths ↔ Lists stdout p

variable {stdout stdout' p : String} {paths paths' : List String}

theorem lists_iff : Lists stdout p ↔ p ∈ ((Text.splitOn '\x00' stdout.toList).filter (· ≠ [])).map String.ofList := by
  rw [List.mem_map, Lists, ← Text.mem_splitOn_iff]
  constructor
  · rintro ⟨hne, hfield⟩
    exact ⟨p.toList, List.mem_filter.2 ⟨hfield, by simpa using hne⟩, String.ofList_toList⟩
  · rintro ⟨f, hf, rfl⟩
    obtain ⟨hfield, hne⟩ := List.mem_filter.1 hf
    rw [String.toList_ofList]
    exact ⟨by simpa using hne, hfield⟩

theorem mem_listedPaths_iff : p ∈ listedPaths stdout ↔ Lists stdout p := by
  rw [listedPaths, Text.mem_sortedDistinct, lists_iff]

theorem isListing_listedPaths (stdout : String) : IsListing stdout (listedPaths stdout) where
  increasing := (Text.pairwise_sortedDistinct _).imp Text.codes_lt_iff.2
  mem_iff _ := mem_listedPaths_iff

/-- A set of paths has one listing. -/
theorem IsListing.eq (h : IsListing stdout paths) (h' : IsListing stdout' paths')
    (hsame : ∀ p, Lists stdout p ↔ Lists stdout' p) : paths = paths' := by
  have hlt : paths.Pairwise (· < ·) := h.increasing.imp Text.codes_lt_iff.1
  have hlt' : paths'.Pairwise (· < ·) := h'.increasing.imp Text.codes_lt_iff.1
  refine hlt.eq_of_mem_iff hlt' fun p => ?_
  rw [h.mem_iff, h'.mem_iff, hsame]

end Git

/-! ## Reports -/

namespace CommandLine

/-- Whether project checks cannot tell two answers of git apart: the files are the same, the report on them is the same, and
so is all that a run of the command leaves behind. -/
structure ReportsAlike (g g' : GitOutcome) : Prop where
  files : Git.trackedFiles g = Git.trackedFiles g'
  report : ∀ (c : Config) disk root identifiers workers,
    c.checkTracked disk root g identifiers workers = c.checkTracked disk root g' identifiers workers
  run : ∀ (i : Invocation) (s : Session) identifiers d,
    { i with command := .tree identifiers false d }.run { s with git := fun _ => g } =
      { i with command := .tree identifiers false d }.run { s with git := fun _ => g' }

variable {g g' : GitOutcome} {paths : List String}

theorem Invocation.tree_of_trackedFiles (h : Git.trackedFiles g = .ok paths) (i : Invocation) (s : Session) (c : Config)
    (identifiers : Bool) (d : Display) : i.tree { s with git := fun _ => g } c identifiers false d =
      { i.files s c identifiers d paths with gitCalls := [Git.filesCall] } := by
  rw [tree, trackedFiles, h]
  rfl

/-- A project check knows of an answer only the files in it. -/
theorem reportsAlike_of_trackedFiles (h : Git.trackedFiles g = .ok paths) (h' : Git.trackedFiles g' = .ok paths) :
    ReportsAlike g g' where
  files := h.trans h'.symm
  report c disk root identifiers workers := by rw [Config.checkTracked, Config.checkTracked, h, h']
  run i s identifiers d := by
    simp only [Invocation.run, Invocation.tree_of_trackedFiles h, Invocation.tree_of_trackedFiles h']
    rfl

end CommandLine

namespace Git

open CommandLine (ReportsAlike)

/-- Whenever git lists files, a project check is about exactly the paths in the output, in the order of their code points and
each one once. So outputs that list the same paths give the same files and the same report. -/
theorem isListing_trackedFiles (stdout stderr : String) :
    (∃ paths, trackedFiles (.finished 0 stdout stderr) = .ok paths ∧ IsListing stdout paths ∧
      ∀ (c : Config) disk root identifiers workers,
        c.checkTracked disk root (.finished 0 stdout stderr) identifiers workers =
          .ok (c.checkProject disk root paths identifiers workers)) ∧
      ∀ stdout' stderr', (∀ p, Lists stdout p ↔ Lists stdout' p) →
        ReportsAlike (.finished 0 stdout stderr) (.finished 0 stdout' stderr') := by
  constructor
  · exact ⟨listedPaths stdout, rfl, isListing_listedPaths stdout, fun _ _ _ _ _ => rfl⟩
  · intro stdout' stderr' hsame
    have hpaths : listedPaths stdout' = listedPaths stdout :=
      (isListing_listedPaths stdout').eq (isListing_listedPaths stdout) fun p => (hsame p).symm
    exact CommandLine.reportsAlike_of_trackedFiles rfl (congrArg Except.ok hpaths)

/-- An output with a line feed in a path, and with a path that is listed twice. -/
def sampleListing : String := "😀.gd\x00ｚ.gd\x00a\nb.gd\x00😀.gd\x00"

/-- The same paths in another order, with null characters next to each other. -/
def sampleRelisting : String := "\x00a\nb.gd\x00\x00ｚ.gd\x00😀.gd"

/-- The path whose first character is beyond the first plane of code points is the last one, although that character begins
with a smaller unit of 16 bits than the first character of the path before it. -/
theorem isListing_trackedFiles_sample :
    (∀ p, Lists sampleListing p ↔ Lists sampleRelisting p) ∧
      trackedFiles (.finished 0 sampleListing "") = .ok ["a\nb.gd", "ｚ.gd", "😀.gd"] ∧
      ReportsAlike (.finished 0 sampleListing "") (.finished 0 sampleRelisting "warning: slow disk") := by
  have hfields : ((Text.splitOn '\x00' sampleListing.toList).filter (· ≠ [])).map String.ofList =
      ["😀.gd", "ｚ.gd", "a\nb.gd", "😀.gd"] := by decide
  have hfields' : ((Text.splitOn '\x00' sampleRelisting.toList).filter (· ≠ [])).map String.ofList =
      ["a\nb.gd", "ｚ.gd", "😀.gd"] := by decide
  have hsame : ∀ p, Lists sampleListing p ↔ Lists sampleRelisting p := by
    intro p
    rw [lists_iff, lists_iff, hfields, hfields']
    grind
  have hlisting : IsListing sampleRelisting ["a\nb.gd", "ｚ.gd", "😀.gd"] :=
    ⟨by decide, fun p => by rw [lists_iff, hfields']⟩
  obtain ⟨⟨paths, hfiles, hpaths, _⟩, halike⟩ := isListing_trackedFiles sampleListing ""
  refine ⟨hsame, ?_, halike _ _ hsame⟩
  rw [hfiles, hpaths.eq hlisting hsame]

end Git

end Conventions
