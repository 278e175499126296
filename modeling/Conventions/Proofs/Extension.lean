import Conventions.Artifact
import Conventions.Proofs.Path

/-!
# Kinds by extension

The kind of a file is told by its name alone: by what follows the last point of the name, in any case. What a path
ends in and what the extension of a name is are stated without the reader of paths, as the ways to write them.
-/

namespace Conventions

namespace Path

variable {cs name stem rest ext : List Char} {fs : List (List Char)}

/-! ## What a path ends in -/

/-- Whether a text is the name of a file: it is neither empty nor a single point, and has no slash. -/
structure IsFileName (name : List Char) : Prop where
  ne_nil : name ≠ []
  ne_point : name ≠ ['.']
  no_slash : '/' ∉ name

/-- Whether a path ends in a name. The name stands alone or behind a slash; a further slash behind it, or a slash and a
point, does not count. -/
inductive EndsIn : List Char → List Char → Prop
  | alone {name : List Char} : IsFileName name → EndsIn name name
  | behind {name : List Char} (above : List Char) : IsFileName name → EndsIn (above ++ '/' :: name) name
  | slash {cs name : List Char} : EndsIn cs name → EndsIn (cs ++ ['/']) name
  | point {cs name : List Char} : EndsIn cs name → EndsIn (cs ++ ['/', '.']) name

theorem components_append_cons (cs rest : List Char) :
    components '/' (cs ++ '/' :: rest) = components '/' cs ++ components '/' rest := by
  rw [components, Text.splitOn_append_cons, List.filter_append]
  rfl

theorem IsFileName.components_eq (h : IsFileName name) : components '/' name = [name] := by
  simp [components, Text.splitOn_of_not_mem h.no_slash, h.ne_nil, h.ne_point]

theorem EndsIn.getLast?_components (h : EndsIn cs name) : (components '/' cs).getLast? = some name := by
  induction h with
  | alone hname => rw [hname.components_eq, List.getLast?_singleton]
  | behind above hname => rw [components_append_cons, hname.components_eq, List.getLast?_concat]
  | slash _ ih =>
      have hnothing : components '/' [] = [] := rfl
      rwa [components_append_cons, hnothing, List.append_nil]
  | point _ ih =>
      have hnothing : components '/' ['.'] = [] := rfl
      rwa [components_append_cons, hnothing, List.append_nil]

/-- Among fields between slashes, the last one that is a name is what the path ends in. -/
theorem endsIn_join (hslash : ∀ f ∈ fs, '/' ∉ f)
    (h : (fs.filter fun f => f ≠ [] ∧ f ≠ ['.']).getLast? = some name) : EndsIn (Text.join ['/'] fs) name := by
  induction fs using List.reverseRecOn with
  | nil => cases h
  | append_singleton fs f ih =>
      have hfields : ∀ g ∈ fs, '/' ∉ g := fun g hg => hslash g (List.mem_append_left [f] hg)
      rw [List.filter_append] at h
      by_cases hname : f ≠ [] ∧ f ≠ ['.']
      · rw [List.filter_cons_of_pos (by simpa using hname), List.filter_nil, List.getLast?_concat,
          Option.some.injEq] at h
        subst h
        have hfile : IsFileName f := ⟨hname.1, hname.2, hslash f (by simp)⟩
        by_cases hfs : fs = []
        · rw [hfs]
          exact .alone hfile
        · rw [Text.join_concat hfs]
          exact .behind _ hfile
      · rw [List.filter_cons_of_neg (by simpa using hname), List.filter_nil, List.append_nil] at h
        have hfs : fs ≠ [] := by
          rintro rfl
          cases h
        have hends := ih hfields h
        rw [Text.join_concat hfs]
        rcases not_and_or.1 hname with hf | hf
        · rw [not_not.1 hf]
          exact hends.slash
        · rw [not_not.1 hf]
          exact hends.point

theorem endsIn_iff : EndsIn cs name ↔ (components '/' cs).getLast? = some name := by
  refine ⟨EndsIn.getLast?_components, fun h => ?_⟩
  rw [← Text.join_splitOn '/' cs]
  exact endsIn_join Text.not_mem_of_mem_splitOn h

theorem toList_name_parse (s : String) :
    (parse s).name.toList = (components '/' s.toList).getLast?.getD [] := by
  rw [name, parts_parse, List.getLast?_map]
  cases (components '/' s.toList).getLast? with
  | none => rfl
  | some f => exact String.toList_ofList

/-! ## The extension of a name -/

/-- Whether a name has an extension: a point, behind something, and what follows it, where it is the last one. -/
def HasExtension (name ext : List Char) : Prop :=
  ∃ stem rest, name = stem ++ '.' :: rest ∧ ext = '.' :: rest ∧ stem ≠ [] ∧ rest ≠ [] ∧ '.' ∉ rest

theorem suffixOf_of_not_mem (h : '.' ∉ name) : suffixOf name = [] := by
  have hnone : name.reverse.dropWhile (· ≠ '.') = [] := by
    rw [List.dropWhile_eq_nil_iff]
    intro c hc
    exact decide_eq_true fun he => h (he ▸ List.mem_reverse.1 hc)
  simp only [suffixOf, hnone, List.length_nil, Nat.zero_le, true_or, if_true]

theorem suffixOf_append (stem : List Char) (h : '.' ∉ rest) :
    suffixOf (stem ++ '.' :: rest) = if stem = [] ∨ rest = [] then [] else '.' :: rest := by
  have hreverse : (stem ++ '.' :: rest).reverse = rest.reverse ++ '.' :: stem.reverse := by simp
  have hstem : (stem ++ '.' :: rest).reverse.dropWhile (· ≠ '.') = '.' :: stem.reverse := by
    rw [hreverse, Text.dropWhile_ne_append (by simpa using h)]
  have hshort : stem.length + 1 ≤ 1 ∨ rest.length + 1 ≤ 1 ↔ stem = [] ∨ rest = [] := by simp
  simp only [suffixOf, hstem, List.length_cons, List.length_reverse, Nat.add_sub_cancel, List.drop_left, hshort]

theorem exists_last_point (h : '.' ∈ name) : ∃ stem rest, name = stem ++ '.' :: rest ∧ '.' ∉ rest := by
  have hreverse := Text.before_append_after (List.mem_reverse.2 h)
  refine ⟨(Text.after '.' name.reverse).reverse, (Text.before '.' name.reverse).reverse, ?_, ?_⟩
  · rw [← List.reverse_inj]
    simpa using hreverse.symm
  · rw [List.mem_reverse]
    exact Text.not_mem_before '.' name.reverse

theorem hasExtension_iff : HasExtension name ext ↔ suffixOf name = ext ∧ ext ≠ [] := by
  constructor
  · rintro ⟨stem, rest, rfl, rfl, hstem, hrest, hpoint⟩
    rw [suffixOf_append stem hpoint, if_neg (not_or.2 ⟨hstem, hrest⟩)]
    exact ⟨rfl, List.cons_ne_nil _ _⟩
  · rintro ⟨rfl, hne⟩
    by_cases hpoint : '.' ∈ name
    · obtain ⟨stem, rest, rfl, hlast⟩ := exists_last_point hpoint
      rw [suffixOf_append stem hlast] at hne ⊢
      split at hne
      · exact absurd rfl hne
      · rename_i hparts
        rw [if_neg hparts]
        exact ⟨stem, rest, rfl, rfl, fun hs => hparts (Or.inl hs), fun hr => hparts (Or.inr hr), hlast⟩
    · exact absurd (suffixOf_of_not_mem hpoint) hne

end Path

namespace ArtifactKind

variable {segments : List String} {k : ArtifactKind} {ext : String}

/-! ## The kind of a path -/

/-- The extensions, in lower case, that tell a kind. -/
def extensions : ArtifactKind → List String
  | .font => [".ttf", ".otf", ".woff", ".woff2"]
  | .resource => [".tres", ".res"]
  | .scene => [".tscn", ".scn"]
  | .script => [".gd", ".cs"]
  | .texture => [".png", ".jpg", ".jpeg", ".svg", ".webp"]

theorem empty_not_mem_extensions (k : ArtifactKind) : "" ∉ k.extensions := by cases k <;> decide

theorem ofExtension?_eq_some_iff : ofExtension? ext = some k ↔ ext ∈ k.extensions := by
  constructor
  · intro h
    unfold ofExtension? at h
    split_ifs at h with hscript hscene hresource htexture hfont <;> cases h <;> assumption
  · have htells : ∀ e ∈ k.extensions, ofExtension? e = some k := by cases k <;> decide
    exact htells ext

/-- Whether some segments tell a kind: the last one ends in a name with an extension of the kind, in any case. -/
def IsToldBy (k : ArtifactKind) (segments : List String) : Prop :=
  ∃ segment ∈ segments.getLast?, ∃ name ext, Path.EndsIn segment.toList name ∧ Path.HasExtension name ext ∧
    String.ofList (ext.map Char.toLower) ∈ k.extensions

theorem ofFileName?_eq_some_iff {segment : String} : ofFileName? segment = some k ↔ ∃ name ext,
    Path.EndsIn segment.toList name ∧ Path.HasExtension name ext ∧
      String.ofList (ext.map Char.toLower) ∈ k.extensions := by
  rw [ofFileName?, ofExtension?_eq_some_iff, Path.lowerSuffix, Path.toList_name_parse]
  constructor
  · intro h
    have hsome (name : List Char) (hext : String.ofList (Text.lower (Path.suffixOf name)) ∈ k.extensions) :
        Path.suffixOf name ≠ [] := by
      intro hnone
      rw [hnone] at hext
      exact k.empty_not_mem_extensions hext
    cases hlast : (Path.components '/' segment.toList).getLast? with
    | none =>
        rw [hlast] at h
        exact absurd rfl (hsome [] h)
    | some name =>
        rw [hlast] at h
        exact ⟨name, _, Path.endsIn_iff.2 hlast, Path.hasExtension_iff.2 ⟨rfl, hsome name h⟩, h⟩
  · rintro ⟨name, ext, hends, hext, hmem⟩
    rw [Path.endsIn_iff.1 hends, Option.getD_some, (Path.hasExtension_iff.1 hext).1]
    exact hmem

/-- The kind of a path is the one that its segments tell. -/
theorem infer?_eq_some_iff : infer? segments = some k ↔ k.IsToldBy segments := by
  simp only [IsToldBy, infer?, Option.bind_eq_some_iff, ofFileName?_eq_some_iff, Option.mem_def]

end ArtifactKind

end Conventions
