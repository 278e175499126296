import Mathlib.Data.List.Nodup
import Mathlib.Data.Nat.Find
import Conventions.Proofs.Path
import Conventions.Proofs.Schema

/-!
# Walks of compiled schemas

The walk of a compiled schema leads where the flat meaning of its mapping leads: down the directories that the
mapping names, the directory for every name in place of a missing one, to the nearest declaration on the way.
-/

namespace Conventions

namespace Schema

variable {m : List (String × Value)}

/-! ## Walking a path -/

/-- One step down the tree of a mapping goes where its flat meaning says. -/
theorem child?_tree_declareAll {here : List String} {t : Tree}
    (h : (declareAll m).tree.at? here = some t) (s : String) :
    t.child? s = (resolveName m here s).bind fun r => (declareAll m).tree.at? (here ++ [r]) := by
  have hisSome (r : String) : (Entries.get? r t.children).isSome ↔ hasDirectory m (here ++ [r]) = true := by
    rw [← Tree.at?_snoc h, isSome_at?_tree_declareAll]
    simp
  have hnone (r : String) (hr : hasDirectory m (here ++ [r]) = false) :
      Entries.get? r t.children = none := by
    rw [← Option.not_isSome_iff_eq_none, hisSome, hr]
    exact Bool.false_ne_true
  rw [Tree.child?, resolveName]
  cases hs : hasDirectory m (here ++ [s]) with
  | true =>
      obtain ⟨c, hc⟩ := Option.isSome_iff_exists.1 ((hisSome s).2 hs)
      rw [if_pos rfl, hc, Option.bind_some, Tree.at?_snoc h, hc]
      rfl
  | false =>
      rw [if_neg Bool.false_ne_true, hnone s hs]
      cases hstar : hasDirectory m (here ++ ["*"]) with
      | true => rw [if_pos rfl, Option.bind_some, Tree.at?_snoc h]; rfl
      | false => rw [if_neg Bool.false_ne_true, hnone "*" hstar]; rfl

theorem isSome_at?_of_resolveName {here : List String} {s r : String} (h : resolveName m here s = some r) :
    ((declareAll m).tree.at? (here ++ [r])).isSome := by
  rw [isSome_at?_tree_declareAll]
  unfold resolveName at h
  split at h
  · cases h; exact Or.inr ‹_›
  · split at h
    · cases h; exact Or.inr ‹_›
    · cases h

/-- The trail of a path has the length of its way, and the directories on it lie at the initial parts of the
way. -/
theorem trail_tree_declareAll {here : List String} {t : Tree} (h : (declareAll m).tree.at? here = some t)
    (segments : List String) :
    (t.trail segments).length = (resolve m here segments).length ∧
      ∀ i, i < (resolve m here segments).length →
        (t.trail segments)[i]? =
          (declareAll m).tree.at? (here ++ (resolve m here segments).take (i + 1)) := by
  induction segments generalizing here t with
  | nil => exact ⟨rfl, nofun⟩
  | cons s ss ih =>
      have hstep := child?_tree_declareAll h s
      simp only [Tree.trail, resolve]
      cases hr : resolveName m here s with
      | none =>
          rw [hstep, hr]
          exact ⟨rfl, nofun⟩
      | some r =>
          obtain ⟨c, hc⟩ := Option.isSome_iff_exists.1 (isSome_at?_of_resolveName hr)
          have hchild : t.child? s = some c := by rw [hstep, hr, Option.bind_some, hc]
          obtain ⟨hlength, hbelow⟩ := ih hc
          simp only [hchild, List.length_cons, hlength, true_and]
          intro i hi
          cases i with
          | zero => simpa using hc.symm
          | succ i =>
              have hi' : i < (resolve m (here ++ [r]) ss).length := Nat.lt_of_succ_lt_succ hi
              simpa [List.take_succ_cons] using hbelow i hi'

end Schema

theorem Tree.length_trail_le (t : Tree) (segments : List String) : (t.trail segments).length ≤ segments.length := by
  induction segments generalizing t with
  | nil => exact Nat.le_refl _
  | cons s ss ih =>
      rw [trail]
      split
      · exact Nat.zero_le _
      · exact Nat.succ_le_succ (ih _)

theorem Schema.depth_walk_le (schema : Schema) (segments : List String) :
    (schema.walk segments).depth ≤ segments.length := by
  unfold walk
  dsimp only
  split <;> exact Tree.length_trail_le _ _

/-- Whether a placement is what declarations say about a path that leads through the directories of `way`: of the
initial parts of the way, the longest one for which kinds are declared decides. -/
structure Placement.Follows (p : Placement) (declared : List String → Option KindSet)
    (segments way : List String) : Prop where
  depth : p.depth = way.length
  nearest : ∀ n ks, n ≤ way.length → declared (way.take n) = some ks →
    (∀ j, n < j → j ≤ way.length → declared (way.take j) = none) →
      p.allowed = ks ∧ p.declaredAt = segments.take n
  nowhere : (∀ n, n ≤ way.length → declared (way.take n) = none) → p.allowed = .empty ∧ p.declaredAt = []

/-- The declarations, the path and its way leave no choice. -/
theorem Placement.Follows.unique {p q : Placement} {declared : List String → Option KindSet}
    {segments way : List String} (hp : p.Follows declared segments way)
    (hq : q.Follows declared segments way) : p = q := by
  have hsame : p.allowed = q.allowed ∧ p.declaredAt = q.declaredAt := by
    by_cases hnone : ∀ n, n ≤ way.length → declared (way.take n) = none
    · obtain ⟨hpa, hpd⟩ := hp.nowhere hnone
      obtain ⟨hqa, hqd⟩ := hq.nowhere hnone
      exact ⟨hpa.trans hqa.symm, hpd.trans hqd.symm⟩
    · push Not at hnone
      obtain ⟨i, hi, hsome⟩ := hnone
      let P : Nat → Prop := fun n => (declared (way.take n)).isSome
      let n := Nat.findGreatest P way.length
      have hn : P n := Nat.findGreatest_spec hi (Option.isSome_iff_ne_none.2 hsome)
      obtain ⟨ks, hks⟩ := Option.isSome_iff_exists.1 hn
      have hlater : ∀ j, n < j → j ≤ way.length → declared (way.take j) = none := by
        intro j hj hle
        rw [← Option.not_isSome_iff_eq_none]
        exact Nat.findGreatest_is_greatest hj hle
      obtain ⟨hpa, hpd⟩ := hp.nearest n ks (Nat.findGreatest_le _) hks hlater
      obtain ⟨hqa, hqd⟩ := hq.nearest n ks (Nat.findGreatest_le _) hks hlater
      exact ⟨hpa.trans hqa.symm, hpd.trans hqd.symm⟩
  obtain ⟨depth, allowed, at_⟩ := p
  obtain ⟨depth', allowed', at_'⟩ := q
  obtain ⟨rfl, rfl⟩ := hsame
  rw [Placement.mk.injEq]
  exact ⟨hp.depth.trans hq.depth.symm, rfl, rfl⟩

namespace Schema

variable {m n : List (String × Value)} {s : Schema}

/-- The walk of the schema of a mapping follows the flat meaning of the mapping. -/
theorem follows_walk_declareAll (h : ∀ e ∈ m, pathSegments e.1 ≠ []) (segments : List String) :
    ((declareAll m).walk segments).Follows (declared m) segments (resolve m [] segments) := by
  have hroot : (declareAll m).tree.at? [] = some (declareAll m).tree := rfl
  obtain ⟨hlength, htrail⟩ := trail_tree_declareAll hroot segments
  have hkinds : ∀ i, i < (resolve m [] segments).length →
      ((declareAll m).tree.trail segments)[i]?.bind Tree.kinds =
        declared m ((resolve m [] segments).take (i + 1)) := by
    intro i hi
    rw [htrail i hi, List.nil_append]
    exact declared?_tree_declareAll m _
  have hbeyond : ∀ i, (resolve m [] segments).length ≤ i →
      ((declareAll m).tree.trail segments)[i]?.bind Tree.kinds = none := by
    intro i hi
    rw [List.getElem?_eq_none (hlength ▸ hi), Option.bind_none]
  refine ⟨?_, ?_, ?_⟩
  · simp only [walk]
    split <;> exact hlength
  · intro i ks hi hks hlater
    obtain ⟨j, rfl⟩ : ∃ j, i = j + 1 := by
      refine Nat.exists_eq_succ_of_ne_zero ?_
      rintro rfl
      rw [List.take_zero, declared_nil_of_ne_nil h] at hks
      cases hks
    have hlast : Tree.lastDeclared ((declareAll m).tree.trail segments) = some (j + 1, ks) := by
      refine Tree.lastDeclared_eq_some ((hkinds j hi).trans hks) ?_
      intro l hl
      rcases Nat.lt_or_ge l (resolve m [] segments).length with hlt | hge
      · rw [hkinds l hlt]
        exact hlater (l + 1) (Nat.succ_lt_succ hl) hlt
      · exact hbeyond l hge
    simp only [walk, hlast, and_self]
  · intro hnone
    have hlast : Tree.lastDeclared ((declareAll m).tree.trail segments) = none := by
      refine Tree.lastDeclared_eq_none fun i => ?_
      rcases Nat.lt_or_ge i (resolve m [] segments).length with hlt | hge
      · rw [hkinds i hlt]
        exact hnone (i + 1) hlt
      · exact hbeyond i hge
    simp only [walk, hlast, and_self]

/-- A walk of the schema of a mapping goes down the directories that the mapping names, to the nearest declaration. -/
theorem walk_of_ofMapping (h : ofMapping m = .ok s) (segments : List String) :
    ((s.walk segments).rootKnown = true ↔ resolve m [] segments ≠ []) ∧
      (s.walk segments).Follows (declared m) segments (resolve m [] segments) := by
  obtain ⟨hentries, rfl⟩ := ofMapping_eq_ok_iff.1 h
  have hfollows := follows_walk_declareAll (fun e he => (hentries e he).1) segments
  refine ⟨?_, hfollows⟩
  rw [Placement.rootKnown, hfollows.depth]
  simp

/-! ## The schema of a mapping -/

theorem slash_not_mem_of_mem_pathSegments {path : String} : ∀ s ∈ pathSegments path, '/' ∉ s.toList := by
  intro s hs
  obtain ⟨f, hf, rfl⟩ := List.mem_map.1 hs
  rw [String.toList_ofList]
  exact Text.not_mem_of_mem_splitOn f (List.mem_of_mem_filter hf)

theorem nodup_keys_entries_declareAll (m : List (String × Value)) :
    (Entries.keys (declareAll m).entries).Nodup := by
  induction m using List.reverseRecOn with
  | nil => exact List.nodup_nil
  | append_singleton m e ih =>
      rw [declareAll_snoc]
      exact Entries.nodup_keys_set _ _ ih

theorem exists_of_mem_keys_declareAll {path : List String}
    (h : path ∈ Entries.keys (declareAll m).entries) : ∃ e ∈ m, pathSegments e.1 = path := by
  rw [← Entries.get?_isSome_iff, get?_entries_declareAll] at h
  obtain ⟨e, he⟩ : ∃ e, e ∈ entriesAt m path := by
    refine List.exists_mem_of_ne_nil _ ?_
    intro hnil
    rw [declared, hnil] at h
    cases h
  obtain ⟨hmem, hpath⟩ := List.mem_filter.1 he
  exact ⟨e, hmem, of_decide_eq_true hpath⟩

/-- The declarations of a schema are shown under distinct paths. -/
theorem nodup_displayPath_declareAll (h : ∀ e ∈ m, pathSegments e.1 ≠ []) :
    ((declareAll m).entries.map fun e => displayPath e.1).Nodup := by
  have hkeys : (declareAll m).entries.map (fun e => displayPath e.1) =
      (Entries.keys (declareAll m).entries).map displayPath := by
    rw [Entries.keys, List.map_map]
    rfl
  rw [hkeys]
  refine List.Nodup.map_on ?_ (nodup_keys_entries_declareAll m)
  intro p hp q hq hpq
  obtain ⟨e, he, rfl⟩ := exists_of_mem_keys_declareAll hp
  obtain ⟨f, hf, rfl⟩ := exists_of_mem_keys_declareAll hq
  exact (displayPath_inj (h e he) (h f hf) slash_not_mem_of_mem_pathSegments
    slash_not_mem_of_mem_pathSegments).1 hpq

theorem resolve_congr (h : hasDirectory n = hasDirectory m) (here segments : List String) :
    resolve n here segments = resolve m here segments := by
  induction segments generalizing here with
  | nil => rfl
  | cons s ss ih => simp only [resolve, resolveName, h, ih]

theorem resolve_perm (h : n.Perm m) (here segments : List String) :
    resolve n here segments = resolve m here segments :=
  resolve_congr (funext (hasDirectory_perm h)) here segments

/-- A compiled schema is the flat meaning of its mapping: its declarations are what the mapping declares, each
path shown once, and a walk goes down the directories that the mapping names, to the nearest declaration.
The order of the mapping does not matter. -/
theorem flat_of_ofMapping (h : ofMapping m = .ok s) :
    (∀ path, Entries.get? path s.entries = declared m path) ∧
      (s.entries.map fun e => displayPath e.1).Nodup ∧
      (∀ segments, ((s.walk segments).rootKnown = true ↔ resolve m [] segments ≠ []) ∧
        (s.walk segments).Follows (declared m) segments (resolve m [] segments)) ∧
      ∀ n : List (String × Value), n.Perm m → ∃ t, ofMapping n = .ok t ∧
        (∀ path, Entries.get? path t.entries = Entries.get? path s.entries) ∧
          ∀ segments, t.walk segments = s.walk segments := by
  have hwalk := walk_of_ofMapping h
  obtain ⟨hentries, rfl⟩ := ofMapping_eq_ok_iff.1 h
  have hpaths : ∀ e ∈ m, pathSegments e.1 ≠ [] := fun e he => (hentries e he).1
  refine ⟨get?_entries_declareAll m, nodup_displayPath_declareAll hpaths, hwalk, ?_⟩
  intro n hn
  refine ⟨declareAll n, ofMapping_eq_ok_iff.2 ⟨fun e he => hentries e (hn.mem_iff.1 he), rfl⟩, ?_, ?_⟩
  · intro path
    rw [get?_entries_declareAll, get?_entries_declareAll, declared_perm hn]
  · intro segments
    refine Placement.Follows.unique ?_ (hwalk segments).2
    have hfollows := follows_walk_declareAll (fun e he => hpaths e (hn.mem_iff.1 he)) segments
    rwa [funext (declared_perm hn), resolve_perm hn] at hfollows

/-- Directories that overlap: two spellings of one path, the directory for every name, and a path that declares
no kinds below one that no entry is for. -/
def overlapping : List (String × Value) :=
  [("entities/*", .list [.text "script"]), (" entities//player/ ", .list [.text "Scene"]),
   ("entities/player", .list [.text "texture"]), ("entities/player/parts/spare", .list [])]

theorem walk_overlapping : ∃ s, ofMapping overlapping = .ok s ∧
    Entries.get? ["entities", "player"] s.entries = some (.ofList [.scene, .texture]) ∧
    s.walk ["entities", "player", "parts", "arm"] =
      ⟨3, .ofList [.scene, .texture], ["entities", "player"]⟩ := by
  have hok : (ofMapping overlapping).toOption.isSome = true := by decide +kernel
  cases h : ofMapping overlapping with
  | error f => rw [h] at hok; cases hok
  | ok s =>
      have hplayer : declared overlapping ["entities", "player"] = some (.ofList [.scene, .texture]) := by
        decide +kernel
      have hparts : declared overlapping ["entities", "player", "parts"] = none := by decide +kernel
      have hway : resolve overlapping [] ["entities", "player", "parts", "arm"] =
          ["entities", "player", "parts"] := by
        decide +kernel
      obtain ⟨hentries, -, hwalk, -⟩ := flat_of_ofMapping h
      obtain ⟨-, hfollows⟩ := hwalk ["entities", "player", "parts", "arm"]
      rw [hway] at hfollows
      obtain ⟨hallowed, hat⟩ := hfollows.nearest 2 _ (by decide) hplayer (by
        intro j hj hle
        obtain rfl : j = 3 := Nat.le_antisymm hle hj
        exact hparts)
      refine ⟨s, rfl, (hentries _).trans hplayer, ?_⟩
      rw [← hallowed, show 3 = (s.walk ["entities", "player", "parts", "arm"]).depth from hfollows.depth.symm]
      exact congrArg (Placement.mk _ _) hat

end Schema

end Conventions
