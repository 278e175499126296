import Mathlib.Data.List.Basic
import Mathlib.Data.List.Infix
import Conventions.Schema

/-!
# Trees of directories

Looking up a path in a tree, in place of walking it: inserting kinds adds the directories on the way and changes
what is declared at one path. Of a trail, the last directory that declares kinds is told by its position.
-/

namespace Conventions

/-! ## Sets of kinds -/

namespace KindSet

theorem mem_ofList {ks : List ArtifactKind} {k : ArtifactKind} : k ∈ (ofList ks).members ↔ k ∈ ks := by
  have hall : k ∈ ArtifactKind.all := by cases k <;> decide
  simp [ofList, List.mem_filter, hall]

theorem ofList_congr {ks ls : List ArtifactKind} (h : ∀ k, k ∈ ks ↔ k ∈ ls) : ofList ks = ofList ls := by
  refine congrArg KindSet.mk (List.filter_congr ?_)
  intro k _
  rw [Bool.eq_iff_iff, List.contains_iff_mem, List.contains_iff_mem]
  exact h k

theorem ofList_union (ks ls : List ArtifactKind) : (ofList ks).union (ofList ls) = ofList (ks ++ ls) := by
  refine ofList_congr fun k => ?_
  simp only [List.mem_append, mem_ofList]

end KindSet

/-! ## Directories of trees -/

namespace Tree

/-- The directory at a path below a directory. -/
def at? (t : Tree) : List String → Option Tree
  | [] => some t
  | s :: ss => (Entries.get? s t.children).bind fun c => c.at? ss

/-- The kinds that the directory at a path declares. -/
def declared? (t : Tree) (path : List String) : Option KindSet := (t.at? path).bind kinds

theorem at?_append (t : Tree) (path rest : List String) :
    t.at? (path ++ rest) = (t.at? path).bind fun c => c.at? rest := by
  induction path generalizing t with
  | nil => rfl
  | cons s ss ih =>
      simp only [List.cons_append, at?, Option.bind_assoc]
      exact Option.bind_congr fun c _ => ih c

theorem at?_empty {path : List String} : empty.at? path = if path = [] then some empty else none := by
  cases path with
  | nil => rfl
  | cons s ss => rfl

theorem declared?_empty (path : List String) : empty.declared? path = none := by
  rw [declared?, at?_empty]
  split <;> rfl

/-- Inserting adds the directories on the way to the path. -/
theorem isSome_at?_insert (ks : KindSet) (path q : List String) (t : Tree) :
    ((t.insert ks path).at? q).isSome ↔ q <+: path ∨ (t.at? q).isSome := by
  induction path generalizing t q with
  | nil =>
      obtain ⟨old, cs⟩ := t
      cases q with
      | nil => simp [at?]
      | cons a q => simp [insert, at?, children]
  | cons s ss ih =>
      obtain ⟨old, cs⟩ := t
      cases q with
      | nil => simp [at?]
      | cons a q =>
          by_cases ha : s = a
          · subst ha
            simp only [insert, at?, children, Entries.get?_set_self, Option.bind_some, ih,
              List.cons_prefix_cons, true_and]
            cases Entries.get? s cs with
            | some c => simp
            | none =>
                -- nothing lay here, so all that lies here now is on the way to the path
                simp only [Option.getD_none, at?_empty, Option.bind_none]
                by_cases hq : q = [] <;> simp [hq]
          · simp [insert, at?, children, Entries.get?_set_of_ne _ ha, List.cons_prefix_cons, Ne.symm ha]

theorem declared?_cons (t : Tree) (s : String) (q : List String) :
    t.declared? (s :: q) = ((Entries.get? s t.children).getD empty).declared? q := by
  rw [declared?, at?]
  cases Entries.get? s t.children with
  | some c => rfl
  | none => exact (declared?_empty q).symm

/-- Inserting changes what is declared at the path, and nothing else. -/
theorem declared?_insert (ks : KindSet) (path q : List String) (t : Tree) :
    (t.insert ks path).declared? q =
      if q = path then some (unite ks (t.declared? q)) else t.declared? q := by
  induction path generalizing t q with
  | nil =>
      obtain ⟨old, cs⟩ := t
      cases q with
      | nil => rfl
      | cons a q => rw [if_neg (List.cons_ne_nil a q)]; rfl
  | cons s ss ih =>
      obtain ⟨old, cs⟩ := t
      cases q with
      | nil => rw [if_neg (List.cons_ne_nil s ss).symm]; rfl
      | cons a q =>
          rw [insert, declared?_cons, declared?_cons]
          by_cases ha : s = a
          · subst ha
            simp only [children, Entries.get?_set_self, Option.getD_some, ih, List.cons.injEq, true_and]
          · simp [children, Entries.get?_set_of_ne _ ha, Ne.symm ha]

theorem at?_snoc {t c : Tree} {here : List String} (h : t.at? here = some c) (s : String) :
    t.at? (here ++ [s]) = Entries.get? s c.children := by
  rw [at?_append, h, Option.bind_some, at?]
  exact Option.bind_fun_some _

theorem lastDeclared_eq_none {ts : List Tree} (h : ∀ i : Nat, ts[i]?.bind kinds = none) :
    lastDeclared ts = none := by
  induction ts with
  | nil => rfl
  | cons t ts ih =>
      have ht : t.kinds = none := h 0
      simp only [lastDeclared, ih fun i => h (i + 1), ht, Option.map_none]

theorem lastDeclared_eq_some {ts : List Tree} {i : Nat} {ks : KindSet} (hi : ts[i]?.bind kinds = some ks)
    (h : ∀ j, i < j → ts[j]?.bind kinds = none) : lastDeclared ts = some (i + 1, ks) := by
  induction ts generalizing i with
  | nil => cases hi
  | cons t ts ih =>
      cases i with
      | zero =>
          have hrest : lastDeclared ts = none := lastDeclared_eq_none fun j => h (j + 1) j.succ_pos
          have ht : t.kinds = some ks := hi
          simp only [lastDeclared, hrest, ht, Option.map_some]
      | succ i =>
          have hrest : lastDeclared ts = some (i + 1, ks) :=
            ih hi fun j hj => h (j + 1) (Nat.succ_lt_succ hj)
          simp only [lastDeclared, hrest]

end Tree

end Conventions
