import Conventions.RuleSet.Default
import Conventions.Proofs.Except
import Conventions.Proofs.Validation

/-!
# Verdicts of the default rules

The default rules carry out every check once, with the parameters of its category, and all of them are
enabled. So their verdict on a request is read off the checks of its categories.
-/

namespace Conventions

variable {s : Settings} {set : RuleSet} {params : Category → Params}

theorem rules_of_defaultRuleSet (h : defaultRuleSet s = .ok set) :
    ∃ schema, Schema.ofMapping s.placement = .ok schema ∧ set.rules = rulesWith (s.params schema) := by
  unfold defaultRuleSet at h
  split at h
  · cases h
  · rename_i rs hrs
    split at h
    · cases h
    · rename_i hset
      cases h
      obtain ⟨schema, hschema, rfl⟩ := Except.map_eq_ok.1 hrs
      exact ⟨schema, hschema, RuleSet.rules_of_ofRules hset⟩

theorem defaultRuleSet_eq_ok {rs : List Rule} (hrules : defaultRules s = .ok rs)
    (hset : RuleSet.ofRules rs = .ok set) : defaultRuleSet s = .ok set := by
  simp only [defaultRuleSet, hrules, hset]

theorem defaultRules_default : defaultRules Settings.default = .ok (rulesWith defaultParams) := by
  have hplacement : Settings.default.placement = placementValues defaultPlacement := rfl
  rw [defaultRules, hplacement, ofMapping_defaultPlacement]
  rfl

/-- The default settings give the default rule set. -/
theorem defaultRuleSet_default : defaultRuleSet Settings.default = .ok RuleSet.default :=
  defaultRuleSet_eq_ok defaultRules_default
    (RuleSet.ofRules_of_sound RuleSet.default.distinct RuleSet.default.sound)

namespace RuleDraft

theorem templateFault?_rule {d : RuleDraft} (hd : d ∈ defaultDrafts) :
    (d.rule params).templateFault? = none :=
  templateFault?_eq_none (isKnownTemplate_message d hd)

/-- The default rules have sound parameters if all keys of the suffix table are suffixes. -/
theorem paramsFault?_rule (hkeys : ∀ e ∈ s.suffixes, Rule.isSuffix e.1.plain = true) (schema : Schema)
    (d : RuleDraft) : (d.rule (s.params schema)).paramsFault? = none := by
  have hnone : ((s.suffixes.map fun e => e.1.plain).find? fun k => !Rule.isSuffix k) = none := by
    rw [List.find?_eq_none, List.forall_mem_map]
    intro e he
    simp [hkeys e he]
  obtain ⟨id, m, message, description, severity⟩ := d
  cases m with
  | nodeSuffix => exact congrArg (Option.map (RuleFault.invalidSuffix id)) hnone
  | _ => rfl

theorem runNamed_rule (d : RuleDraft) (q : Request) :
    Matcher.runNamed (d.rule params).matcher q (d.rule params).params =
      d.matcher.run q (params d.matcher.category) := by
  simp only [Matcher.runNamed, rule, Matcher.ofName?_name]

theorem serves_rule (d : RuleDraft) (q : Request) :
    (d.rule params).serves q = true ↔ d.matcher.category ∈ q.categories := by
  simp [Rule.serves, rule]

theorem evaluate_rule_eq_none_iff (d : RuleDraft) (q : Request) :
    (d.rule params).evaluate q = none ↔ d.matcher.run q (params d.matcher.category) = .ok none := by
  rw [Rule.evaluate_eq_none_iff, runNamed_rule]

end RuleDraft

/-- Settings give a rule set if their places are a schema and all keys of their suffix table are suffixes. -/
theorem exists_defaultRuleSet {schema : Schema} (hschema : Schema.ofMapping s.placement = .ok schema)
    (hkeys : ∀ e ∈ s.suffixes, Rule.isSuffix e.1.plain = true) : ∃ set, defaultRuleSet s = .ok set := by
  have hrules : defaultRules s = .ok (rulesWith (s.params schema)) := by
    rw [defaultRules, hschema]
    rfl
  have hdistinct : ((rulesWith (s.params schema)).map Rule.id).Nodup := by
    rw [map_id_rulesWith]
    exact defaultDrafts_ids_nodup
  have hsound : ∀ r ∈ rulesWith (s.params schema), r.fault? = none := by
    rw [rulesWith, List.forall_mem_map]
    exact fun d hd => fault?_rule hd (d.paramsFault?_rule hkeys schema)
  exact ⟨_, defaultRuleSet_eq_ok hrules (RuleSet.ofRules_of_sound hdistinct hsound)⟩

theorem separatorDraft_mem : separatorDraft ∈ defaultDrafts := by simp [defaultDrafts]

theorem exists_draft (m : Matcher) : ∃ d ∈ defaultDrafts, d.matcher = m := by
  have hall : ∀ m ∈ Matcher.all, m ∈ defaultDrafts.map RuleDraft.matcher := by decide
  exact List.mem_map.1 (hall m (by cases m <;> decide))

/-- Default rules with the same check are the same. -/
theorem id_eq_of_matcher_eq : ∀ d ∈ defaultDrafts, ∀ e ∈ defaultDrafts,
    d.matcher = e.matcher → d.id = e.id := by
  decide +kernel

namespace RuleSet

/-- The default rules find nothing if every check of the categories of a request finds nothing. -/
theorem validate_default_eq_nil_iff (h : set.rules = rulesWith params) (q : Request) :
    (set.validate q).diagnostics = [] ↔
      ∀ m : Matcher, m.category ∈ q.categories → m.run q (params m.category) = .ok none := by
  rw [validate_eq_nil_iff, h, rulesWith, List.forall_mem_map]
  constructor
  · intro hnone m hm
    obtain ⟨d, hd, rfl⟩ := exists_draft m
    exact (d.evaluate_rule_eq_none_iff q).1 (hnone d hd ((d.serves_rule q).2 hm))
  · intro hnone d _ hserves
    exact (d.evaluate_rule_eq_none_iff q).2 (hnone d.matcher ((d.serves_rule q).1 hserves))

/-- A default rule reports what its check reports. -/
theorem reports_default_iff (h : set.rules = rulesWith params) {id : String} {m : Matcher}
    (hm : (id, m) ∈ defaultDrafts.map fun d => (d.id, d.matcher)) (q : Request) :
    (set.validate q).Reports id ↔
      m.category ∈ q.categories ∧ m.run q (params m.category) ≠ .ok none := by
  obtain ⟨d, hd, hdm⟩ := List.mem_map.1 hm
  cases hdm
  have hmem : d.rule params ∈ set.rules := h ▸ List.mem_map_of_mem hd
  have hreports := set.reports_validate_iff q hmem
  rwa [d.serves_rule q, ne_eq, d.evaluate_rule_eq_none_iff q] at hreports

/-- If only one check may find something, the verdict of the default rules is what its rule reports. -/
theorem validate_default_eq_of_forall_ne (h : set.rules = rulesWith params) {d : RuleDraft}
    (hd : d ∈ defaultDrafts) {q : Request} (hserves : d.matcher.category ∈ q.categories)
    (hothers : ∀ m : Matcher, m ≠ d.matcher → m.category ∈ q.categories →
      m.run q (params m.category) = .ok none) :
    (set.validate q).diagnostics = ((d.rule params).evaluate q).toList := by
  have hmem : d.rule params ∈ set.rules := h ▸ List.mem_map_of_mem hd
  refine set.validate_eq_of_forall_ne q hmem ((d.serves_rule q).2 hserves) ?_
  intro x hx hq hid
  rw [h] at hx
  obtain ⟨e, he, rfl⟩ := List.mem_map.1 hx
  have hne : e.matcher ≠ d.matcher := fun hm => hid (id_eq_of_matcher_eq e he d hd hm)
  exact (e.evaluate_rule_eq_none_iff q).2 (hothers e.matcher hne ((e.serves_rule q).1 hq))

end RuleSet

end Conventions
