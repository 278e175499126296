import Mathlib.Data.List.Induction
import Conventions.RuleSet.Default
import Conventions.Proofs.Entries
import Conventions.Proofs.RuleSet

/-!
# Rule sets changed step by step

Changes of a rule set are refused exactly if they name an unknown rule; otherwise the changed rules are accepted again,
as only severities and switches change. So a sequence of changes, of which some are refused, ends in the rule set that
its accepted changes give at once, with the later ones on top.
-/

namespace Conventions

/-- What changes of a rule set leave of a rule: all but its severity and whether it is enabled. -/
def Rule.fixed (r : Rule) : String × Category × String × String × String × Params :=
  (r.id, r.category, r.matcher, r.message, r.description, r.params)

namespace RuleSet

variable {s t : RuleSet} {o m : Overrides} {os : List Overrides} {r : Rule}

/-! ## One step -/

namespace Overrides

@[simp] theorem apply_id : (o.apply r).id = r.id := rfl

@[simp] theorem apply_fixed : (o.apply r).fixed = r.fixed := rfl

/-- Whether changes name only rules of a rule set. -/
def isKnownIn (s : RuleSet) (o : Overrides) : Bool := o.ids.all s.contains

theorem isKnownIn_iff : o.isKnownIn s = true ↔ ∀ id ∈ o.ids, id ∈ s.ids := by
  simp [isKnownIn, contains]

end Overrides

theorem withOverrides_eq : s.withOverrides o =
    if o.isKnownIn s then .ok (s.override o)
    else .error (.unknownIds (Text.sortedDistinct (o.ids.filter fun id => !s.contains id))) := by
  unfold withOverrides
  by_cases h : o.isKnownIn s = true
  · have hnone : (o.ids.filter fun id => !s.contains id) = [] := by
      rw [List.filter_eq_nil_iff]
      intro id hid
      simpa using List.all_eq_true.1 h id hid
    rw [hnone, if_pos h]
  · obtain ⟨id, hid, hunknown⟩ : ∃ id ∈ o.ids, s.contains id = false := by
      simpa [Overrides.isKnownIn] using h
    have hsome : (o.ids.filter fun id => !s.contains id) ≠ [] :=
      List.ne_nil_of_mem (List.mem_filter.2 ⟨hid, by simp [hunknown]⟩)
    rw [if_neg h]
    split
    · exact absurd ‹_› hsome
    · rfl

theorem withOverrides_eq_ok_iff : s.withOverrides o = .ok t ↔ o.isKnownIn s = true ∧ s.override o = t := by
  rw [withOverrides_eq]
  split <;> simp_all

theorem exists_withOverrides_eq_error_iff :
    (∃ f, s.withOverrides o = .error f) ↔ ∃ id ∈ o.ids, id ∉ s.ids := by
  rw [withOverrides_eq]
  split
  · rename_i h
    simpa using Overrides.isKnownIn_iff.1 h
  · rename_i h
    simpa [Overrides.isKnownIn_iff] using h

/-- Building the rule set anew from the changed rules never fails. -/
theorem ofRules_map_apply (s : RuleSet) (o : Overrides) :
    ofRules (s.rules.map o.apply) = .ok (s.override o) :=
  ofRules_of_sound (s.override o).distinct (s.override o).sound

/-! ## Changes in one -/

namespace Overrides

/-- Whether changes are those of several steps in one: for every rule the last step that names it counts. -/
structure IsMergeOf (m : Overrides) (os : List Overrides) : Prop where
  enabled (id : String) : Entries.get? id m.enabled = lastGiven (fun o => Entries.get? id o.enabled) os
  severities (id : String) :
    Entries.get? id m.severities = lastGiven (fun o => Entries.get? id o.severities) os

/-- The changes of several steps in one table each, those of the later steps first. -/
def merge (os : List Overrides) : Overrides where
  enabled := os.reverse.flatMap Overrides.enabled
  severities := os.reverse.flatMap Overrides.severities

theorem isMergeOf_merge (os : List Overrides) : (merge os).IsMergeOf os :=
  ⟨fun _ => Entries.get?_flatMap, fun _ => Entries.get?_flatMap⟩

theorem mem_ids_iff {id : String} : id ∈ o.ids ↔
    (Entries.get? id o.enabled).isSome ∨ (Entries.get? id o.severities).isSome := by
  rw [Overrides.ids, List.mem_append, Entries.get?_isSome_iff, Entries.get?_isSome_iff]

theorem IsMergeOf.mem_ids_iff {id : String} (h : m.IsMergeOf os) : id ∈ m.ids ↔ ∃ o ∈ os, id ∈ o.ids := by
  simp only [Overrides.mem_ids_iff, h.enabled, h.severities, isSome_lastGiven_iff, ← exists_or, ← and_or_left]

/-- Changes in one do to a rule what the steps do one after the other. -/
theorem IsMergeOf.apply_eq_foldl (h : m.IsMergeOf os) : m.apply r = os.foldl (fun q o => o.apply q) r := by
  induction os using List.reverseRecOn generalizing m with
  | nil =>
      have he := h.enabled r.id
      have hs := h.severities r.id
      simp only [lastGiven_nil] at he hs
      simp [apply, he, hs]
  | append_singleton os o ih =>
      have he := h.enabled r.id
      have hs := h.severities r.id
      rw [lastGiven_snoc] at he hs
      rw [List.foldl_append, List.foldl_cons, List.foldl_nil, ← ih (isMergeOf_merge os)]
      simp [apply, he, hs, (isMergeOf_merge os).enabled, (isMergeOf_merge os).severities, Option.getD_or]

end Overrides

/-! ## Sequences of steps -/

/-- A rule set after some steps, with the changes that were accepted. -/
structure History where
  current : RuleSet
  accepted : List Overrides

/-- One more step: changes that are refused leave the rule set as it is. -/
def History.step (h : History) (o : Overrides) : History :=
  match h.current.withOverrides o with
  | .ok t => ⟨t, h.accepted ++ [o]⟩
  | .error _ => h

/-- A rule set changed by a sequence of steps. -/
def history (s : RuleSet) (steps : List Overrides) : History := steps.foldl History.step ⟨s, []⟩

/-- What a history keeps: the accepted changes are those that name known rules, and the rules are what these changes,
one after the other, make of the rules at the start. -/
structure History.Follows (h : History) (s : RuleSet) (steps : List Overrides) : Prop where
  accepted : h.accepted = steps.filter fun o => o.isKnownIn s
  rules : h.current.rules = s.rules.map fun r => h.accepted.foldl (fun q o => o.apply q) r

namespace History

variable {h : History} {steps : List Overrides}

theorem ids_current (hf : h.Follows s steps) : h.current.ids = s.ids := by
  have hid (os : List Overrides) (r : Rule) : (os.foldl (fun q o => o.apply q) r).id = r.id := by
    induction os generalizing r with
    | nil => rfl
    | cons o os ih => rw [List.foldl_cons, ih, Overrides.apply_id]
  simp [ids, hf.rules, hid]

theorem isKnownIn_current (hf : h.Follows s steps) : o.isKnownIn h.current = o.isKnownIn s := by
  rw [Bool.eq_iff_iff, Overrides.isKnownIn_iff, Overrides.isKnownIn_iff, ids_current hf]

theorem step_eq : h.step o =
    if o.isKnownIn h.current then ⟨h.current.override o, h.accepted ++ [o]⟩ else h := by
  rw [step, withOverrides_eq]
  by_cases hk : o.isKnownIn h.current = true <;> simp [hk]

theorem follows_step (hf : h.Follows s steps) : (h.step o).Follows s (steps ++ [o]) := by
  rw [step_eq]
  by_cases hk : o.isKnownIn h.current = true
  · rw [if_pos hk]
    rw [isKnownIn_current hf] at hk
    refine ⟨by simp [hf.accepted, hk], ?_⟩
    simp [override, hf.rules, List.foldl_append]
  · rw [if_neg hk]
    rw [isKnownIn_current hf] at hk
    exact ⟨by simp [hf.accepted, hk], hf.rules⟩

theorem history_snoc : s.history (steps ++ [o]) = (s.history steps).step o := by
  rw [history, List.foldl_append, List.foldl_cons, List.foldl_nil, ← history]

theorem follows_history (s : RuleSet) (steps : List Overrides) : (s.history steps).Follows s steps := by
  induction steps using List.reverseRecOn with
  | nil => exact ⟨rfl, (List.map_id s.rules).symm⟩
  | append_singleton steps o ih =>
      rw [history_snoc]
      exact follows_step ih

end History

theorem withOverrides_of_isMergeOf {steps : List Overrides} (h : m.IsMergeOf (s.history steps).accepted) :
    s.withOverrides m = .ok (s.history steps).current := by
  have hf := History.follows_history s steps
  rw [withOverrides_eq_ok_iff]
  constructor
  · rw [Overrides.isKnownIn_iff]
    intro id hid
    obtain ⟨o, ho, hid⟩ := h.mem_ids_iff.1 hid
    rw [hf.accepted, List.mem_filter] at ho
    exact Overrides.isKnownIn_iff.1 ho.2 id hid
  · apply eq_of_rules_eq
    rw [hf.rules, override]
    exact List.map_congr_left fun r _ => h.apply_eq_foldl

/-- After any sequence of changes, changes are refused exactly if they name a rule that is unknown, and then nothing
changes; otherwise the changed rules are accepted as a rule set. All rules keep their places and everything but severity
and switch. The changes that were accepted give the same rule set at once, with the later ones on top. -/
theorem history_eq_withOverrides (s : RuleSet) (steps : List Overrides) :
    (∀ o, (∃ f, (s.history steps).current.withOverrides o = .error f) ↔ ∃ id ∈ o.ids, id ∉ s.ids) ∧
      (∀ o f, (s.history steps).current.withOverrides o = .error f →
        s.history (steps ++ [o]) = s.history steps) ∧
      (∀ o t, (s.history steps).current.withOverrides o = .ok t →
        s.history (steps ++ [o]) = ⟨t, (s.history steps).accepted ++ [o]⟩ ∧
          ofRules ((s.history steps).current.rules.map o.apply) = .ok t) ∧
      (s.history steps).current.rules.map Rule.fixed = s.rules.map Rule.fixed ∧
      (∃ m : Overrides, m.IsMergeOf (s.history steps).accepted) ∧
      ∀ m : Overrides, m.IsMergeOf (s.history steps).accepted →
        s.withOverrides m = .ok (s.history steps).current := by
  have hf := History.follows_history s steps
  have hmerge := Overrides.isMergeOf_merge (s.history steps).accepted
  refine ⟨?refused, ?unchanged, ?accepted, ?fixed, ⟨_, hmerge⟩, fun m hm => withOverrides_of_isMergeOf hm⟩
  case refused =>
    intro o
    rw [exists_withOverrides_eq_error_iff, History.ids_current hf]
  case unchanged =>
    intro o f ho
    rw [History.history_snoc, History.step, ho]
  case accepted =>
    intro o t ho
    rw [History.history_snoc, History.step, ho]
    obtain ⟨_, rfl⟩ := withOverrides_eq_ok_iff.1 ho
    exact ⟨rfl, ofRules_map_apply _ o⟩
  case fixed =>
    obtain ⟨_, hcurrent⟩ := withOverrides_eq_ok_iff.1 (withOverrides_of_isMergeOf hmerge)
    rw [← hcurrent, override, List.map_map]
    exact List.map_congr_left fun r _ => Overrides.apply_fixed

/-- A rule is switched off, a rule that does not exist is switched off, and the first rule is switched on as a warning. -/
def switchedSteps : List Overrides :=
  [⟨[("Path.UnknownRoot", false)], []⟩, ⟨[("Path.Unknown", false)], []⟩,
    ⟨[("Path.UnknownRoot", true)], [("Path.UnknownRoot", .warning)]⟩]

theorem history_switchedSteps :
    RuleSet.default.withOverrides ⟨[("Path.UnknownRoot", true)], [("Path.UnknownRoot", .warning)]⟩ =
      .ok (RuleSet.default.history switchedSteps).current := by
  obtain ⟨_, _, _, _, _, hmerge⟩ := history_eq_withOverrides RuleSet.default switchedSteps
  apply hmerge
  have hknown : (switchedSteps.map fun o => o.isKnownIn RuleSet.default) = [true, false, true] := by
    decide +kernel
  simp only [switchedSteps, List.map_cons, List.map_nil, List.cons.injEq, and_true] at hknown
  obtain ⟨hfirst, hunknown, hlast⟩ := hknown
  rw [(History.follows_history _ _).accepted, switchedSteps, List.filter_cons_of_pos hfirst,
    List.filter_cons_of_neg (by simp [hunknown]), List.filter_cons_of_pos hlast, List.filter_nil]
  constructor <;> intro id <;> by_cases h : "Path.UnknownRoot" = id <;>
    simp [Entries.get?, lastGiven, h]

end RuleSet

end Conventions
