import Conventions.RuleSet
import Conventions.Proofs.Entries

/-!
# Accepted rules and their positions

A list of rules is accepted exactly if its identifiers are distinct and every rule is sound, so that some of
the rules of a rule set are a rule set again. The positions of identifiers grow along the rules.
-/

namespace Conventions.RuleSet

/-! ## Accepted lists of rules -/

theorem firstFault_eq_none_of_sound {taken : List String} {rs : List Rule}
    (hd : (rs.map Rule.id).Nodup) (ht : ∀ r ∈ rs, r.id ∉ taken) (hs : ∀ r ∈ rs, r.fault? = none) :
    firstFault taken rs = none := by
  induction rs generalizing taken with
  | nil => rfl
  | cons r rs ih =>
      simp only [List.map_cons, List.nodup_cons] at hd
      simp only [firstFault, ht r (by simp), if_false, hs r (by simp)]
      refine ih hd.2 ?_ fun q hq => hs q (by simp [hq])
      intro q hq hm
      rcases List.mem_cons.1 hm with he | hm
      · exact hd.1 (he ▸ List.mem_map_of_mem hq)
      · exact ht q (by simp [hq]) hm

theorem ofRules_of_sound {rs : List Rule} (hd : (rs.map Rule.id).Nodup)
    (hs : ∀ r ∈ rs, r.fault? = none) : ofRules rs = .ok ⟨rs, hd, hs⟩ := by
  have hf : firstFault [] rs = none := firstFault_eq_none_of_sound hd (by simp) hs
  unfold ofRules
  split
  · rename_i f h
    rw [hf] at h; cases h
  · rfl

theorem rules_of_ofRules {rs : List Rule} {s : RuleSet} (h : ofRules rs = .ok s) : s.rules = rs := by
  unfold ofRules at h
  split at h
  · cases h
  · cases h; rfl

theorem eq_of_rules_eq {s t : RuleSet} (h : s.rules = t.rules) : s = t := by
  cases s
  cases t
  cases h
  rfl

/-- Some of the rules of a rule set are a rule set. -/
theorem exists_ofRules_filter (s : RuleSet) (p : Rule → Bool) :
    ∃ t, ofRules (s.rules.filter p) = .ok t := by
  have hsub : (s.rules.filter p).Sublist s.rules := List.filter_sublist
  exact ⟨_, ofRules_of_sound (s.distinct.sublist (hsub.map _)) fun r hr => s.sound r (hsub.subset hr)⟩

/-! ## Positions -/

theorem indexOf_getElem (s : RuleSet) {i : Nat} (h : i < s.rules.length) :
    s.indexOf s.rules[i].id = i := by
  have hi : i < s.ids.length := by simpa [ids] using h
  have he : s.ids[i] = s.rules[i].id := by simp [ids]
  rw [← he]
  exact List.Nodup.idxOf_getElem s.distinct i hi

/-- Positions grow along the rules. -/
theorem pairwise_indexOf (s : RuleSet) :
    s.rules.Pairwise fun a b => s.indexOf a.id < s.indexOf b.id := by
  rw [List.pairwise_iff_getElem]
  intro i j hi hj hij
  rw [s.indexOf_getElem hi, s.indexOf_getElem hj]
  exact hij

/-! ## Rules of one identifier -/

theorem filter_id_eq (s : RuleSet) {r : Rule} (h : r ∈ s.rules) :
    s.rules.filter (fun x => x.id == r.id) = [r] := filter_key_eq_of_nodup s.distinct h

theorem get?_id (s : RuleSet) {r : Rule} (h : r ∈ s.rules) : s.get? r.id = some r := by
  rw [get?, ← List.head?_filter, s.filter_id_eq h, List.head?_cons]

end Conventions.RuleSet
