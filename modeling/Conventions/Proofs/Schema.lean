import Mathlib.Data.List.Induction
import Conventions.Proofs.Except
import Conventions.Proofs.Tree

/-!
# Schemas and their flat meaning

A mapping says by itself, without a tree, which directories there are and what they declare: a directory is a
path that some entry goes through, and it declares what the entries for it list together. The compiled schema
holds exactly these declarations and these directories.
-/

namespace Conventions

namespace Schema

/-! ## The flat meaning of a mapping -/

variable {m n : List (String × Value)}

/-- The kinds that a value lists. -/
def listedKinds (v : Value) : List ArtifactKind :=
  (v.items?.getD []).filterMap fun w => ArtifactKind.ofText? w.plain

/-- The entries of a mapping for a path, however each of them spells it. -/
def entriesAt (m : List (String × Value)) (path : List String) : List (String × Value) :=
  m.filter fun e => pathSegments e.1 = path

/-- What a mapping declares for a path: the kinds that its entries for the path list, if there are any. -/
def declared (m : List (String × Value)) (path : List String) : Option KindSet :=
  if (entriesAt m path).isEmpty then none
  else some (.ofList ((entriesAt m path).flatMap fun e => listedKinds e.2))

/-- Whether the path of some entry of a mapping goes through a directory. -/
def hasDirectory (m : List (String × Value)) (path : List String) : Bool :=
  !path.isEmpty && m.any fun e => path.isPrefixOf (pathSegments e.1)

/-- The directory that a segment leads to below `here`: the one of its name, or else the one named `*`. -/
def resolveName (m : List (String × Value)) (here : List String) (s : String) : Option String :=
  if hasDirectory m (here ++ [s]) then some s
  else if hasDirectory m (here ++ ["*"]) then some "*"
  else none

/-- The names of the directories that a path leads through below `here`, up to the first segment that leads to
none. -/
def resolve (m : List (String × Value)) (here : List String) : List String → List String
  | [] => []
  | s :: ss =>
    match resolveName m here s with
    | none => []
    | some r => r :: resolve m (here ++ [r]) ss

theorem declared_snoc (m : List (String × Value)) (e : String × Value) (path : List String) :
    declared (m ++ [e]) path =
      if path = pathSegments e.1 then some (Tree.unite (.ofList (listedKinds e.2)) (declared m path))
      else declared m path := by
  by_cases h : path = pathSegments e.1
  · have hat : entriesAt (m ++ [e]) path = entriesAt m path ++ [e] := by
      simp [entriesAt, List.filter_append, h]
    rw [if_pos h, declared, hat, declared]
    cases hm : entriesAt m path with
    | nil => simp [Tree.unite]
    | cons a es => simp [Tree.unite, KindSet.ofList_union]
  · have hat : entriesAt (m ++ [e]) path = entriesAt m path := by
      simp [entriesAt, List.filter_append, Ne.symm h]
    rw [if_neg h, declared, hat, declared]

theorem hasDirectory_snoc (m : List (String × Value)) (e : String × Value) (path : List String) :
    hasDirectory (m ++ [e]) path = true ↔
      path ≠ [] ∧ path <+: pathSegments e.1 ∨ hasDirectory m path = true := by
  simp only [hasDirectory, List.any_append, Bool.and_eq_true, Bool.or_eq_true]
  cases path <;> simp [or_comm]

theorem declared_nil_of_ne_nil (h : ∀ e ∈ m, pathSegments e.1 ≠ []) : declared m [] = none := by
  have hnone : entriesAt m [] = [] := by
    rw [entriesAt, List.filter_eq_nil_iff]
    intro e he
    simpa using h e he
  rw [declared, hnone]
  rfl

theorem declared_perm (h : n.Perm m) (path : List String) : declared n path = declared m path := by
  have hat : (entriesAt n path).Perm (entriesAt m path) := h.filter _
  have hkinds : KindSet.ofList ((entriesAt n path).flatMap fun e => listedKinds e.2) =
      .ofList ((entriesAt m path).flatMap fun e => listedKinds e.2) :=
    KindSet.ofList_congr fun k => (hat.flatMap_right _).mem_iff
  simp only [declared, hat.isEmpty_eq, hkinds]

theorem hasDirectory_perm (h : n.Perm m) (path : List String) :
    hasDirectory n path = hasDirectory m path := by
  simp only [hasDirectory, h.any_eq]

/-! ## Compiling a mapping -/

/-- Whether an entry of a mapping has a path and lists nothing but kinds. -/
def IsEntry (e : String × Value) : Prop :=
  pathSegments e.1 ≠ [] ∧
    ∃ items, e.2.items? = some items ∧ ∀ v ∈ items, (ArtifactKind.ofText? v.plain).isSome

/-- The schema with the declaration of one more entry. -/
def declareEntry (s : Schema) (e : String × Value) : Schema :=
  s.declare (pathSegments e.1) (.ofList (listedKinds e.2))

/-- The schema with the declarations of all entries of a mapping. -/
def declareAll (m : List (String × Value)) : Schema := m.foldl declareEntry empty

theorem readKind_eq_ok_iff {path : String} {v : Value} {k : ArtifactKind} :
    readKind path v = .ok k ↔ ArtifactKind.ofText? v.plain = some k := by
  unfold readKind
  split
  · rename_i l hl
    rw [hl, Except.ok.injEq, Option.some.injEq]
  · rename_i hnone
    simp [hnone]

theorem mapM_readKind_eq_ok_iff {path : String} {vs : List Value} {ks : List ArtifactKind} :
    vs.mapM (readKind path) = .ok ks ↔
      (∀ v ∈ vs, (ArtifactKind.ofText? v.plain).isSome) ∧
        ks = vs.filterMap fun v => ArtifactKind.ofText? v.plain := by
  induction vs generalizing ks with
  | nil =>
      constructor
      · rintro ⟨⟩
        exact ⟨nofun, rfl⟩
      · rintro ⟨-, rfl⟩
        rfl
  | cons v vs ih =>
      rw [List.mapM_cons, Except.bind_eq_ok, List.forall_mem_cons, List.filterMap_cons]
      constructor
      · rintro ⟨k, hk, h⟩
        obtain ⟨ls, hls, h⟩ := Except.bind_eq_ok.1 h
        cases h
        rw [readKind_eq_ok_iff] at hk
        obtain ⟨hvs, rfl⟩ := ih.1 hls
        simp only [hk, Option.isSome_some, true_and]
        exact ⟨hvs, trivial⟩
      · rintro ⟨⟨hv, hvs⟩, rfl⟩
        obtain ⟨k, hk⟩ := Option.isSome_iff_exists.1 hv
        simp only [hk]
        exact ⟨k, readKind_eq_ok_iff.2 hk, Except.bind_eq_ok.2 ⟨_, ih.2 ⟨hvs, rfl⟩, rfl⟩⟩

theorem readKinds_eq_ok_iff {path : String} {v : Value} {ks : KindSet} :
    readKinds path v = .ok ks ↔
      (∃ items, v.items? = some items ∧ ∀ w ∈ items, (ArtifactKind.ofText? w.plain).isSome) ∧
        ks = .ofList (listedKinds v) := by
  unfold readKinds listedKinds
  cases hv : v.items? with
  | none => simp
  | some items =>
      simp only [Except.map_eq_ok, mapM_readKind_eq_ok_iff, Option.getD_some, Option.some.injEq,
        exists_eq_left']
      constructor
      · rintro ⟨ls, ⟨hall, rfl⟩, rfl⟩
        exact ⟨hall, rfl⟩
      · rintro ⟨hall, rfl⟩
        exact ⟨_, ⟨hall, rfl⟩, rfl⟩

theorem readEntry_eq_ok_iff (s : Schema) (e : String × Value) (t : Schema) :
    readEntry s e = .ok t ↔ IsEntry e ∧ t = s.declareEntry e := by
  unfold readEntry IsEntry declareEntry
  split
  · rename_i hnil
    simp [hnil]
  · rename_i path hne
    simp only [Except.map_eq_ok, readKinds_eq_ok_iff, and_assoc]
    constructor
    · rintro ⟨ks, hitems, rfl, rfl⟩
      exact ⟨hne, hitems, rfl⟩
    · rintro ⟨-, hitems, rfl⟩
      exact ⟨_, hitems, rfl, rfl⟩

/-- A mapping is accepted exactly if each of its entries is, and then all of them are declared. -/
theorem ofMapping_eq_ok_iff {s : Schema} :
    ofMapping m = .ok s ↔ (∀ e ∈ m, IsEntry e) ∧ s = declareAll m :=
  Except.foldlM_eq_ok_iff readEntry_eq_ok_iff

theorem declareAll_snoc (m : List (String × Value)) (e : String × Value) :
    declareAll (m ++ [e]) = (declareAll m).declareEntry e := by
  simp only [declareAll, List.foldl_append, List.foldl_cons, List.foldl_nil]

/-- What the list of declarations holds is what the mapping declares. -/
theorem get?_entries_declareAll (m : List (String × Value)) (path : List String) :
    Entries.get? path (declareAll m).entries = declared m path := by
  induction m using List.reverseRecOn with
  | nil => rfl
  | append_singleton m e ih =>
      rw [declareAll_snoc, declareEntry, declare, declared_snoc]
      by_cases h : path = pathSegments e.1
      · rw [if_pos h, ← h, Entries.get?_set_self, ih]
      · rw [if_neg h, Entries.get?_set_of_ne _ (Ne.symm h), ih]

theorem declared?_tree_declareAll (m : List (String × Value)) (path : List String) :
    (declareAll m).tree.declared? path = declared m path := by
  induction m using List.reverseRecOn with
  | nil => exact Tree.declared?_empty path
  | append_singleton m e ih =>
      rw [declareAll_snoc, declareEntry, declare, Tree.declared?_insert, declared_snoc, ih]

/-- The directories of the tree are those that the mapping names. -/
theorem isSome_at?_tree_declareAll (m : List (String × Value)) (path : List String) :
    ((declareAll m).tree.at? path).isSome ↔ path = [] ∨ hasDirectory m path = true := by
  induction m using List.reverseRecOn with
  | nil =>
      show (Tree.empty.at? path).isSome ↔ _
      rw [Tree.at?_empty]
      split <;> simp [hasDirectory, *]
  | append_singleton m e ih =>
      rw [declareAll_snoc, declareEntry, declare, Tree.isSome_at?_insert, ih, hasDirectory_snoc]
      by_cases h : path = [] <;> simp [h]

end Schema

end Conventions
