import Mathlib.Data.List.Infix
import Conventions.Disk

/-!
# Changes at one place of a disk

Putting a file somewhere, or removing it, changes what lies at its place and nothing else, provided that the directory
of the place is there. Paths that lead to other places still lead there, and the disk remains one on which nothing lies
below a file.
-/

namespace Conventions

namespace Entries

variable {α β : Type} [DecidableEq α] {k l : α} {v : β} {es : List (α × β)}

theorem mem_keys_set : l ∈ keys (set k v es) ↔ l = k ∨ l ∈ keys es := by
  by_cases h : k ∈ keys es
  · rw [keys_set_of_mem v h]
    exact ⟨Or.inr, fun hl => hl.elim (fun he => he ▸ h) id⟩
  · rw [keys_set_of_not_mem v h, List.mem_append, List.mem_singleton, or_comm]

theorem get?_filter_ne (h : l ≠ k) : get? l (es.filter fun e => e.1 ≠ k) = get? l es := by
  induction es with
  | nil => rfl
  | cons e es ih =>
      by_cases he : e.1 = k
      · rw [List.filter_cons_of_neg (by simpa using he), ih, get?, if_neg (fun hl => h (hl.symm.trans he))]
      · rw [List.filter_cons_of_pos (by simpa using he), get?, get?, ih]

theorem mem_keys_filter_ne : l ∈ keys (es.filter fun e => e.1 ≠ k) ↔ l ∈ keys es ∧ l ≠ k := by
  simp only [keys, List.mem_map, List.mem_filter, decide_eq_true_eq]
  constructor
  · rintro ⟨e, ⟨he, hk⟩, rfl⟩
    exact ⟨⟨e, he, rfl⟩, hk⟩
  · rintro ⟨⟨e, he, rfl⟩, hk⟩
    exact ⟨e, ⟨he, hk⟩, rfl⟩

end Entries

namespace Disk

variable {d d' e : Disk} {p q place parent : List String} {name : String} {n : DiskNode}

/-! ## What lies at a place -/

/-- Whether a place lies on the way to the working directory or to something on the disk. -/
def Leads (d : Disk) (p : List String) : Prop := p <+: d.cwd.parts ∨ ∃ k ∈ Entries.keys d.nodes, p <+: k

theorem at?_eq (d : Disk) (p : List String) [Decidable (d.Leads p)] :
    d.at? p = (Entries.get? p d.nodes).or (if d.Leads p then some .directory else none) := by
  have hleads : (p.isPrefixOf d.cwd.parts || d.nodes.any fun e => p.isPrefixOf e.1) = true ↔ d.Leads p := by
    simp [Leads, Entries.keys]
  unfold at?
  cases h : Entries.get? p d.nodes with
  | some n => rfl
  | none => simp only [hleads, Option.none_or]

theorem leads_of_get? (h : Entries.get? p d.nodes = some n) : d.Leads p :=
  Or.inr ⟨p, Entries.get?_isSome_iff.1 (by rw [h]; rfl), List.prefix_rfl⟩

theorem at?_eq_none_iff : d.at? p = none ↔ ¬d.Leads p := by
  classical
  rw [at?_eq]
  cases h : Entries.get? p d.nodes with
  | some n => simp [leads_of_get? h]
  | none => simp

theorem leads_of_at? (h : d.at? p = some n) : d.Leads p := by
  by_contra hleads
  rw [at?_eq_none_iff.2 hleads] at h
  cases h

theorem Leads.of_isPrefix (h : d.Leads q) (hp : p <+: q) : d.Leads p := by
  rcases h with hq | ⟨k, hk, hq⟩
  · exact Or.inl (hp.trans hq)
  · exact Or.inr ⟨k, hk, hp.trans hq⟩

theorem at?_congr (hget : Entries.get? p d'.nodes = Entries.get? p d.nodes) (hleads : d'.Leads p ↔ d.Leads p) :
    d'.at? p = d.at? p := by
  classical
  rw [at?_eq, at?_eq, hget]
  simp only [hleads]

/-! ## Disks that agree off a place -/

/-- Whether two disks have the same working directory, and the same at every place but one. -/
structure AgreesOff (place : List String) (d d' : Disk) : Prop where
  cwd : d'.cwd = d.cwd
  at?_eq : ∀ q, q ≠ place → d'.at? q = d.at? q

theorem AgreesOff.refl (place : List String) (d : Disk) : AgreesOff place d d := ⟨rfl, fun _ _ => rfl⟩

theorem AgreesOff.trans (h : AgreesOff place d d') (h' : AgreesOff place d' e) : AgreesOff place d e :=
  ⟨h'.cwd.trans h.cwd, fun q hq => (h'.at?_eq q hq).trans (h.at?_eq q hq)⟩

theorem leads_put : (d.put place n).Leads q ↔ d.Leads q ∨ q <+: place := by
  simp only [Leads, put, Entries.mem_keys_set, or_and_right, exists_or, exists_eq_left]
  rw [or_assoc, or_comm (a := q <+: place)]

theorem agreesOff_put (h : d.at? parent = some .directory) :
    AgreesOff (parent ++ [name]) d (d.put (parent ++ [name]) n) := by
  refine ⟨rfl, fun q hq => at?_congr (Entries.get?_set_of_ne n hq.symm d.nodes) ?_⟩
  rw [leads_put, List.prefix_concat_iff, or_iff_right hq]
  exact or_iff_left_of_imp (leads_of_at? h).of_isPrefix

theorem ne_concat (parent : List String) (name : String) : parent ≠ parent ++ [name] := by
  intro h
  have hlength := congrArg List.length h
  simp at hlength

theorem leads_remove : (d.remove (parent ++ [name])).Leads q ↔
    q <+: d.cwd.parts ∨ (∃ k ∈ Entries.keys d.nodes, k ≠ parent ++ [name] ∧ q <+: k) ∨ q <+: parent := by
  simp only [Leads, remove, put, List.dropLast_concat, Entries.mem_keys_filter_ne, Entries.mem_keys_set, and_assoc,
    or_and_right, exists_or, exists_eq_left, ne_eq, ne_concat, not_false_eq_true, true_and]
  rw [or_comm (a := q <+: parent)]

theorem get?_remove (hq : q ≠ parent ++ [name]) (h : q ≠ parent) :
    Entries.get? q (d.remove (parent ++ [name])).nodes = Entries.get? q d.nodes := by
  simp only [remove, put, List.dropLast_concat]
  rw [Entries.get?_filter_ne hq, Entries.get?_set_of_ne _ h.symm]

theorem agreesOff_remove (h : d.at? parent = some .directory) :
    AgreesOff (parent ++ [name]) d (d.remove (parent ++ [name])) := by
  refine ⟨rfl, fun q hq => ?_⟩
  -- the directory may have been there for the sake of what is removed only, so it is listed itself afterwards
  by_cases hparent : q = parent
  · have hget : Entries.get? parent (d.remove (parent ++ [name])).nodes = some .directory := by
      simp only [remove, put, List.dropLast_concat]
      rw [Entries.get?_filter_ne (ne_concat parent name), Entries.get?_set_self]
    classical
    rw [hparent, h, Disk.at?_eq, hget, Option.some_or]
  · refine at?_congr (get?_remove hq hparent) ?_
    rw [leads_remove]
    constructor
    · rintro (hcwd | ⟨k, hk, _, hqk⟩ | hqp)
      · exact Or.inl hcwd
      · exact Or.inr ⟨k, hk, hqk⟩
      · exact (leads_of_at? h).of_isPrefix hqp
    · rintro (hcwd | ⟨k, hk, hqk⟩)
      · exact Or.inl hcwd
      · by_cases he : k = parent ++ [name]
        · rw [he, List.prefix_concat_iff, or_iff_right hq] at hqk
          exact Or.inr (Or.inr hqk)
        · exact Or.inr (Or.inl ⟨k, hk, he, hqk⟩)

/-! ## Files have nothing below them -/

/-- Whether everything on a disk lies in directories, and so does the working directory, which is one itself. -/
structure IsTree (d : Disk) : Prop where
  above : ∀ p q, p <+: q → p ≠ q → d.at? q ≠ none → d.at? p = some .directory
  cwd : d.at? d.cwd.parts = some .directory

theorem IsTree.of_agreesOff (htree : d.IsTree) (h : AgreesOff (parent ++ [name]) d d')
    (hparent : d.at? parent = some .directory) (hplace : d.at? (parent ++ [name]) ≠ some .directory) :
    d'.IsTree := by
  have hkeep : ∀ p, d.at? p = some .directory → d'.at? p = some .directory := by
    intro p hp
    rw [h.at?_eq p (fun he => hplace (he ▸ hp)), hp]
  refine ⟨fun p q hpq hne hq => hkeep p ?_, ?_⟩
  · by_cases he : q = parent ++ [name]
    · rw [he, List.prefix_concat_iff, or_iff_right (he ▸ hne)] at hpq
      by_cases hp : p = parent
      · rw [hp, hparent]
      · exact htree.above p parent hpq hp (by rw [hparent]; simp)
    · exact htree.above p q hpq hne (h.at?_eq q he ▸ hq)
  · rw [h.cwd]
    exact hkeep _ htree.cwd

theorem IsTree.at?_remove (htree : d.IsTree) (hplace : d.at? (parent ++ [name]) ≠ some .directory) :
    (d.remove (parent ++ [name])).at? (parent ++ [name]) = none := by
  have hbelow : ∀ q, d.at? q ≠ none → parent ++ [name] <+: q → q = parent ++ [name] := by
    intro q hq hbegins
    by_contra hne
    exact hplace (htree.above _ q hbegins (Ne.symm hne) hq)
  rw [at?_eq_none_iff, leads_remove]
  rintro (hcwd | ⟨k, hk, hne, hbegins⟩ | hbegins)
  · have hat := htree.cwd
    rw [hbelow _ (by rw [hat]; simp) hcwd] at hat
    exact hplace hat
  · refine hne (hbelow k ?_ hbegins)
    rw [ne_eq, at?_eq_none_iff, not_not]
    exact Or.inr ⟨k, hk, List.prefix_rfl⟩
  · exact absurd hbegins.length_le (by simp)

/-! ## Paths -/

theorem find_eq_ok_iff {path : Path} :
    d.find path = .ok (p, n) ↔ d.descend (d.start path) path.parts = .ok p ∧ d.at? p = some n := by
  unfold find
  split
  · rename_i f hd
    simp [hd]
  · rename_i here hd
    rw [hd, Except.ok.injEq]
    split
    · rename_i m hm
      rw [Except.ok.injEq, Prod.mk.injEq, and_congr_right_iff]
      rintro rfl
      rw [hm, Option.some.injEq]
    · rename_i hnone
      refine iff_of_false nofun ?_
      rintro ⟨rfl, hn⟩
      rw [hnone] at hn
      cases hn

theorem descend_cons_of_ne (h : name ≠ "..") (here rest : List String) :
    d.descend here (name :: rest) =
      match d.at? (here ++ [name]) with
      | none => .error .missing
      | some .directory => d.descend (here ++ [name]) rest
      | some (.file _ _) => if rest.isEmpty then .ok (here ++ [name]) else .error .notDirectory := by
  cases hnode : d.at? (here ++ [name]) with
  | none => simp only [descend, hnode]
  | some n => cases n <;> simp only [descend, hnode]

/-- A way down that ends elsewhere does not pass a place without a directory. -/
theorem AgreesOff.descend (h : AgreesOff place d d') (hplace : d.at? place ≠ some .directory) (hp : p ≠ place)
    {here rest : List String} (hd : d.descend here rest = .ok p) : d'.descend here rest = .ok p := by
  fun_induction d.descend here rest with
  | case1 here => exact hd
  | case2 here rest ih => exact ih hd
  | case3 here name rest hname next hnext => cases hd
  | case4 here name rest hname next hnext ih =>
      have hne : here ++ [name] ≠ place := fun he => hplace (he ▸ hnext)
      rw [descend_cons_of_ne hname, h.at?_eq _ hne, hnext]
      exact ih hd
  | case5 here name rest hname next text mode hnext hrest =>
      have hend : here ++ [name] = p := Except.ok.inj hd
      rw [descend_cons_of_ne hname, hend, h.at?_eq p hp, ← hend, hnext]
      exact if_pos hrest
  | case6 here name rest hname next text mode hnext hrest => cases hd

theorem AgreesOff.find (h : AgreesOff place d d') (hplace : d.at? place ≠ some .directory) {path : Path}
    (hp : p ≠ place) (hfind : d.find path = .ok (p, n)) : d'.find path = .ok (p, n) := by
  obtain ⟨hdescend, hat⟩ := find_eq_ok_iff.1 hfind
  have hstart : d'.start path = d.start path := by rw [start, start, h.cwd]
  rw [find_eq_ok_iff, hstart, h.at?_eq p hp]
  exact ⟨h.descend hplace hp hdescend, hat⟩

end Disk

end Conventions
