import Mathlib.Data.Finset.Max
import Conventions.Proofs.Entries
import Conventions.Proofs.Walk

/-!
# Schemas as mappings

The declarations of a schema, with each path written as text, are a mapping again. Reading a path drops the blanks
around its text first and then the slashes, so that a blank behind the first slash or in front of the last one stays in
the path; a path without such blanks is read back from its text. As the declarations of a schema determine its
directories and walks, compiling them again restores the schema exactly if all of its paths are of this form.
-/

namespace Conventions

theorem ArtifactKind.ofText?_word (k : ArtifactKind) : ArtifactKind.ofText? k.word = some k := by
  cases k <;> decide

namespace Schema

/-! ## Paths as text and back -/

/-- Whether a path has segments, each with characters and without slashes. -/
structure IsPath (path : List String) : Prop where
  ne_nil : path ≠ []
  ne_empty : ∀ s ∈ path, s ≠ ""
  slash_not_mem : ∀ s ∈ path, '/' ∉ s.toList

/-- Whether a path as text has no blanks around it. -/
def IsTrimmed (path : List String) : Prop := Text.trimmed (displayPath path) = displayPath path

instance (path : List String) : Decidable (IsTrimmed path) := inferInstanceAs (Decidable (_ = _))

/-- The number of characters in the segments of a path. -/
def segmentSize (path : List String) : Nat := (path.flatMap String.toList).length

variable {path : List String}

/-- The slashes around a path make empty fields only. -/
theorem pathSegments_eq (text : String) : pathSegments text =
    ((Text.splitOn '/' (Text.trim text.toList)).filter (· ≠ [])).map String.ofList := by
  simp only [pathSegments, Text.filter_splitOn_dropEndWhile, Text.filter_splitOn_dropWhile]

theorem isPath_pathSegments {text : String} (h : pathSegments text ≠ []) : IsPath (pathSegments text) := by
  refine ⟨h, ?_, slash_not_mem_of_mem_pathSegments⟩
  rw [pathSegments_eq, List.forall_mem_map]
  intro f hf hempty
  have hne : f ≠ [] := by simpa using (List.mem_filter.1 hf).2
  exact hne (by simpa using congrArg String.toList hempty)

theorem pathSegments_displayPath (h : IsPath path) (htrim : IsTrimmed path) :
    pathSegments (displayPath path) = path := by
  have htext : Text.trim (displayPath path).toList = (displayPath path).toList := by
    simpa [Text.trimmed] using congrArg String.toList htrim
  have hfields : (path.map String.toList).filter (· ≠ []) = path.map String.toList := by
    rw [List.filter_eq_self, List.forall_mem_map]
    intro s hs
    simpa using h.ne_empty s hs
  rw [pathSegments_eq, htext, splitOn_displayPath h.ne_nil h.slash_not_mem, hfields, List.map_map]
  exact (List.map_congr_left fun s _ => String.ofList_toList).trans (List.map_id path)

theorem segmentSize_pathSegments (text : String) :
    segmentSize (pathSegments text) = (Text.trim text.toList).countP (· ≠ '/') := by
  rw [pathSegments_eq, segmentSize, List.flatMap_map, List.countP_eq_length_filter, ← Text.flatten_splitOn,
    ← List.flatten_filter_ne_nil]
  simp only [String.toList_ofList, List.flatMap_id']

theorem countP_displayPath (h : IsPath path) : (displayPath path).toList.countP (· ≠ '/') = segmentSize path := by
  rw [List.countP_eq_length_filter, ← Text.flatten_splitOn, splitOn_displayPath h.ne_nil h.slash_not_mem, segmentSize,
    List.flatMap_def]

/-- The blanks that trimming drops are characters of segments. -/
theorem countP_trim_lt {cs : List Char} (h : Text.trim cs ≠ cs) :
    (Text.trim cs).countP (· ≠ '/') < cs.countP (· ≠ '/') := by
  have hblanks {bs : List Char} (hbs : Text.allBlank bs = true) : bs.countP (· ≠ '/') = bs.length := by
    refine List.countP_eq_length.2 fun c hc => ?_
    have hne : c ≠ '/' := by
      rintro rfl
      exact absurd (List.all_eq_true.1 hbs '/' hc) (by decide)
    simpa using hne
  obtain ⟨as, bs, has, hbs, hcs⟩ := Text.exists_trim_append cs
  have hcount := congrArg (List.countP (· ≠ '/')) hcs
  rw [List.countP_append, List.countP_append, hblanks has, hblanks hbs] at hcount
  have hdropped : ¬(as.length = 0 ∧ bs.length = 0) := by
    rintro ⟨has, hbs⟩
    refine h ?_
    simpa [List.length_eq_zero_iff.1 has, List.length_eq_zero_iff.1 hbs] using hcs
  omega

/-- Reading a path with blanks around it loses some of its characters. -/
theorem segmentSize_pathSegments_lt (h : IsPath path) (htrim : ¬IsTrimmed path) :
    segmentSize (pathSegments (displayPath path)) < segmentSize path := by
  rw [segmentSize_pathSegments, ← countP_displayPath h]
  refine countP_trim_lt fun heq => htrim ?_
  rw [IsTrimmed, Text.trimmed, heq, String.ofList_toList]

/-! ## The mapping of a schema -/

/-- A declaration as an entry of a mapping: the path with slashes, and the words for the kinds. -/
def writtenEntry (e : List String × KindSet) : String × Value :=
  (displayPath e.1, .list (e.2.words.map .text))

/-- The declarations of a schema as a mapping. -/
def mapping (s : Schema) : List (String × Value) := s.entries.map writtenEntry

/-- Whether the mapping of a schema is accepted and gives the same declarations, top-level directories and walks. -/
def IsRestored (s : Schema) : Prop :=
  ∃ t, ofMapping s.mapping = .ok t ∧ t.entries = s.entries ∧ t.roots = s.roots ∧
    ∀ segments, t.walk segments = s.walk segments

variable {m n : List (String × Value)} {s : Schema} {es : List (List String × KindSet)}

theorem listedKinds_writtenEntry (e : List String × KindSet) : listedKinds (writtenEntry e).2 = e.2.members := by
  have hwords : listedKinds (writtenEntry e).2 =
      e.2.members.filterMap fun k => ArtifactKind.ofText? k.word := by
    simp [listedKinds, writtenEntry, Value.items?, KindSet.words, List.filterMap_map, Function.comp_def,
      Value.text, Value.plain, Scalar.plain]
  rw [hwords, funext ArtifactKind.ofText?_word]
  exact List.filterMap_some

theorem isEntry_writtenEntry {e : List String × KindSet} (h : pathSegments (displayPath e.1) ≠ []) :
    IsEntry (writtenEntry e) := by
  refine ⟨h, _, rfl, ?_⟩
  rw [List.forall_mem_map, KindSet.words, List.forall_mem_map]
  intro k _
  exact Option.isSome_iff_exists.2 ⟨k, ArtifactKind.ofText?_word k⟩

theorem mem_keys_declareAll : path ∈ Entries.keys (declareAll m).entries ↔ ∃ e ∈ m, pathSegments e.1 = path := by
  refine ⟨exists_of_mem_keys_declareAll, ?_⟩
  rintro ⟨e, he, rfl⟩
  rw [← Entries.get?_isSome_iff, get?_entries_declareAll, declared, if_neg]
  · rfl
  · rw [List.isEmpty_iff]
    exact List.ne_nil_of_mem (List.mem_filter.2 ⟨he, decide_eq_true rfl⟩)

/-- A schema declares sets of kinds without repetitions and in order. -/
theorem ofList_members_of_mem_entries {e : List String × KindSet} (he : e ∈ (declareAll m).entries) :
    .ofList e.2.members = e.2 := by
  have hset : ∀ e ∈ (declareAll m).entries, ∃ ks, e.2 = .ofList ks := by
    clear he e
    induction m using List.reverseRecOn with
    | nil => exact List.forall_mem_nil _
    | append_singleton m e ih =>
        rw [declareAll_snoc]
        refine Entries.forall_set ?_ ih
        cases Entries.get? (pathSegments e.1) (declareAll m).entries with
        | none => exact ⟨_, rfl⟩
        | some old => exact ⟨_, rfl⟩
  obtain ⟨ks, hks⟩ := hset e he
  rw [hks]
  exact KindSet.ofList_congr fun _ => KindSet.mem_ofList

theorem entries_declare {u : Schema} {e : List String × KindSet} (h : e.1 ∉ Entries.keys u.entries) :
    (u.declare e.1 e.2).entries = u.entries ++ [e] := by
  have hnone : Entries.get? e.1 u.entries = none := by
    rwa [← Option.not_isSome_iff_eq_none, Entries.get?_isSome_iff]
  rw [declare, hnone]
  exact Entries.set_of_not_mem h

/-- Declarations for new and distinct paths are put behind those of a schema. -/
theorem entries_foldl_declare {u : Schema} (h : (Entries.keys (u.entries ++ es)).Nodup) :
    (es.foldl (fun u e => u.declare e.1 e.2) u).entries = u.entries ++ es := by
  induction es generalizing u with
  | nil => exact (List.append_nil _).symm
  | cons e es ih =>
      have hnew : e.1 ∉ Entries.keys u.entries := by
        rw [Entries.keys, List.map_append, List.map_cons, List.nodup_append] at h
        exact fun he => h.2.2 e.1 he e.1 List.mem_cons_self rfl
      have hstep := entries_declare hnew
      rw [List.foldl_cons, ih, hstep, List.append_assoc, List.singleton_append]
      rwa [hstep, List.append_assoc, List.singleton_append]

theorem declareAll_mapping (h : ∀ e ∈ (declareAll m).entries, pathSegments (displayPath e.1) = e.1) :
    declareAll (declareAll m).mapping = (declareAll m).entries.foldl (fun u e => u.declare e.1 e.2) empty := by
  rw [declareAll, mapping, List.foldl_map]
  refine List.foldl_ext _ _ _ fun u e he => ?_
  rw [declareEntry, listedKinds_writtenEntry, ofList_members_of_mem_entries he]
  exact congrArg (u.declare · e.2) (h e he)

/-! ## What the declarations determine -/

theorem hasDirectory_eq (m : List (String × Value)) (path : List String) : hasDirectory m path =
    (!path.isEmpty && (Entries.keys (declareAll m).entries).any path.isPrefixOf) := by
  rw [hasDirectory, Bool.eq_iff_iff, Bool.and_eq_true, Bool.and_eq_true, List.any_eq_true, List.any_eq_true]
  refine and_congr_right fun _ => ?_
  constructor
  · rintro ⟨e, he, hprefix⟩
    exact ⟨_, mem_keys_declareAll.2 ⟨e, he, rfl⟩, hprefix⟩
  · rintro ⟨_, hmem, hprefix⟩
    obtain ⟨e, he, rfl⟩ := mem_keys_declareAll.1 hmem
    exact ⟨e, he, hprefix⟩

theorem hasDirectory_of_entries_eq (h : (declareAll n).entries = (declareAll m).entries) :
    hasDirectory n = hasDirectory m := by
  funext path
  rw [hasDirectory_eq, hasDirectory_eq, h]

theorem tree_declare (s : Schema) (path : List String) (ks : KindSet) :
    (s.declare path ks).tree = s.tree.insert ks path := rfl

theorem nodup_keys_children_insert (ks : KindSet) (path : List String) {t : Tree}
    (h : (Entries.keys t.children).Nodup) : (Entries.keys (t.insert ks path).children).Nodup := by
  obtain ⟨old, cs⟩ := t
  cases path with
  | nil => exact h
  | cons a path => exact Entries.nodup_keys_set _ _ h

theorem nodup_keys_children_declareAll (m : List (String × Value)) :
    (Entries.keys (declareAll m).tree.children).Nodup := by
  induction m using List.reverseRecOn with
  | nil => exact List.nodup_nil
  | append_singleton m e ih =>
      rw [declareAll_snoc, declareEntry, tree_declare]
      exact nodup_keys_children_insert _ _ ih

theorem mem_keys_children_declareAll {a : String} :
    a ∈ Entries.keys (declareAll m).tree.children ↔ hasDirectory m [a] = true := by
  have hat := isSome_at?_tree_declareAll m [a]
  rw [← Entries.get?_isSome_iff]
  simpa [Tree.at?] using hat

/-- The declarations of a schema determine its top-level directories. -/
theorem roots_of_entries_eq (h : (declareAll n).entries = (declareAll m).entries) :
    (declareAll n).roots = (declareAll m).roots := by
  refine Text.sorted_congr ?_
  refine (List.perm_ext_iff_of_nodup (nodup_keys_children_declareAll n) (nodup_keys_children_declareAll m)).2 ?_
  intro a
  rw [mem_keys_children_declareAll, mem_keys_children_declareAll, hasDirectory_of_entries_eq h]

/-- The declarations of a schema determine its walks. -/
theorem walk_of_entries_eq (hn : ∀ e ∈ n, pathSegments e.1 ≠ []) (hm : ∀ e ∈ m, pathSegments e.1 ≠ [])
    (h : (declareAll n).entries = (declareAll m).entries) (segments : List String) :
    (declareAll n).walk segments = (declareAll m).walk segments := by
  have hdeclared : declared n = declared m := by
    funext path
    rw [← get?_entries_declareAll, ← get?_entries_declareAll, h]
  have hfollows := follows_walk_declareAll hn segments
  rw [hdeclared, resolve_congr (hasDirectory_of_entries_eq h)] at hfollows
  exact hfollows.unique (follows_walk_declareAll hm segments)

/-! ## Compiling the mapping of a schema -/

/-- A schema whose paths are all read back from their texts is restored. -/
theorem isRestored_of_forall_keys (hm : ∀ e ∈ m, pathSegments e.1 ≠ [])
    (h : ∀ p ∈ Entries.keys (declareAll m).entries, pathSegments (displayPath p) = p) :
    (declareAll m).IsRestored := by
  have hread : ∀ e ∈ (declareAll m).entries, pathSegments (displayPath e.1) = e.1 :=
    fun e he => h e.1 (List.mem_map_of_mem he)
  have hne : ∀ e ∈ (declareAll m).entries, pathSegments (displayPath e.1) ≠ [] := by
    intro e he
    obtain ⟨f, hf, hpath⟩ := mem_keys_declareAll.1 (List.mem_map_of_mem (f := Prod.fst) he)
    rw [hread e he, ← hpath]
    exact hm f hf
  have hentries : ∀ e ∈ (declareAll m).mapping, IsEntry e :=
    List.forall_mem_map.2 fun e he => isEntry_writtenEntry (hne e he)
  have hsame : (declareAll (declareAll m).mapping).entries = (declareAll m).entries := by
    rw [declareAll_mapping hread]
    exact entries_foldl_declare (u := empty) (nodup_keys_entries_declareAll m)
  refine ⟨_, ofMapping_eq_ok_iff.2 ⟨hentries, rfl⟩, hsame, roots_of_entries_eq hsame, ?_⟩
  exact walk_of_entries_eq (fun e he => (hentries e he).1) hm hsame

/-- If some paths are all read from the texts of some of them, none has blanks around it: the longest such path would
have to be read from the text of a longer one. -/
theorem forall_isTrimmed_of_read {paths : List (List String)} (hpath : ∀ p ∈ paths, IsPath p)
    (hread : ∀ p ∈ paths, ∃ q ∈ paths, pathSegments (displayPath q) = p) : ∀ p ∈ paths, IsTrimmed p := by
  let blank := (paths.filter fun p => ¬IsTrimmed p).toFinset
  have hmem {p : List String} : p ∈ blank ↔ p ∈ paths ∧ ¬IsTrimmed p := by simp [blank]
  intro p hp
  by_contra htrim
  -- What the longest path with blanks is read from is longer if it has blanks, and the path itself if it has none.
  obtain ⟨l, hl, hlongest⟩ := blank.exists_max_image segmentSize ⟨p, hmem.2 ⟨hp, htrim⟩⟩
  obtain ⟨hlmem, hlblank⟩ := hmem.1 hl
  obtain ⟨q, hq, hql⟩ := hread l hlmem
  by_cases hqtrim : IsTrimmed q
  · rw [pathSegments_displayPath (hpath q hq) hqtrim] at hql
    exact hlblank (hql ▸ hqtrim)
  · have hshorter := segmentSize_pathSegments_lt (hpath q hq) hqtrim
    rw [hql] at hshorter
    exact Nat.lt_irrefl _ (Nat.lt_of_lt_of_le hshorter (hlongest q (hmem.2 ⟨hq, hqtrim⟩)))

theorem isTrimmed_of_isRestored (hm : ∀ e ∈ m, pathSegments e.1 ≠ []) (h : (declareAll m).IsRestored) :
    ∀ p ∈ Entries.keys (declareAll m).entries, IsTrimmed p := by
  obtain ⟨t, ht, hsame, _, _⟩ := h
  obtain ⟨_, rfl⟩ := ofMapping_eq_ok_iff.1 ht
  refine forall_isTrimmed_of_read ?_ ?_
  · intro p hp
    obtain ⟨e, he, rfl⟩ := mem_keys_declareAll.1 hp
    exact isPath_pathSegments (hm e he)
  · intro p hp
    rw [← hsame, mem_keys_declareAll] at hp
    obtain ⟨e, he, hpath⟩ := hp
    obtain ⟨f, hf, rfl⟩ := List.mem_map.1 he
    exact ⟨f.1, List.mem_map_of_mem hf, hpath⟩

/-- The declarations of an accepted mapping are themselves a mapping that is accepted and gives the same schema exactly
if no path of the mapping has a blank at its beginning or at its end. -/
theorem isRestored_iff (h : ofMapping m = .ok s) :
    s.IsRestored ↔ ∀ e ∈ m, IsTrimmed (pathSegments e.1) := by
  obtain ⟨hentries, rfl⟩ := ofMapping_eq_ok_iff.1 h
  have hm : ∀ e ∈ m, pathSegments e.1 ≠ [] := fun e he => (hentries e he).1
  constructor
  · intro hrestored e he
    exact isTrimmed_of_isRestored hm hrestored _ (mem_keys_declareAll.2 ⟨e, he, rfl⟩)
  · intro htrim
    refine isRestored_of_forall_keys hm fun p hp => ?_
    obtain ⟨e, he, rfl⟩ := mem_keys_declareAll.1 hp
    exact pathSegments_displayPath (isPath_pathSegments (hm e he)) (htrim e he)

/-- Paths with blanks next to slashes: inside a path they belong to its segments. -/
def spaced : List (String × Value) :=
  [(" levels / tiles/ ", .list [.text "Scene"]), ("levels / tiles", .list [.text "texture", .text "scene"]),
   ("//levels /*", .list [])]

theorem isRestored_spaced : ∃ s, ofMapping spaced = .ok s ∧
    Entries.get? ["levels ", " tiles"] s.entries = some (.ofList [.scene, .texture]) ∧ s.IsRestored := by
  have hok : (ofMapping spaced).toOption.isSome = true := by decide +kernel
  have htiles : declared spaced ["levels ", " tiles"] = some (.ofList [.scene, .texture]) := by decide +kernel
  have htrim : ∀ e ∈ spaced, IsTrimmed (pathSegments e.1) := by decide +kernel
  cases h : ofMapping spaced with
  | error f => rw [h] at hok; cases hok
  | ok s =>
      obtain ⟨_, rfl⟩ := ofMapping_eq_ok_iff.1 h
      exact ⟨_, rfl, (get?_entries_declareAll spaced _).trans htiles, (isRestored_iff h).2 htrim⟩

/-- A blank behind the first slash stays in the path and is dropped when the path is read again. -/
theorem not_isRestored_blankBehindSlash : ¬∀ (m : List (String × Value)) (s : Schema), ofMapping m = .ok s →
    s.IsRestored := by
  intro hrestored
  have hentries : ∀ e ∈ [("/ a", Value.list [.text "script"])], IsEntry e := by
    rw [List.forall_mem_singleton]
    exact ⟨by decide +kernel, _, rfl, by decide +kernel⟩
  have hm : ∀ e ∈ [("/ a", Value.list [.text "script"])], pathSegments e.1 ≠ [] := fun e he => (hentries e he).1
  have htrim := isTrimmed_of_isRestored hm (hrestored _ _ (ofMapping_eq_ok_iff.2 ⟨hentries, rfl⟩)) [" a"]
    (mem_keys_declareAll.2 ⟨_, List.mem_singleton_self _, by decide +kernel⟩)
  exact absurd htrim (by decide +kernel)

end Schema

end Conventions
