import Conventions.Proofs.Aggregate
import Conventions.Proofs.Override
import Conventions.Proofs.Report

/-!
# Verdicts under changed rules

Switching rules off takes their diagnostics out of a verdict, and grading rules anew changes the severities of their
diagnostics. Nothing else changes, and the failure of a check is an error in any case.
-/

namespace Conventions

/-! ## One rule -/

namespace Rule

variable {r : Rule} {o : RuleSet.Overrides} {q : Request}

/-- Whether the check of a rule cannot be carried out on a request. -/
def fails (r : Rule) (q : Request) : Bool := !(Matcher.runNamed r.matcher q r.params).isOk

theorem fails_of_error {f : MatchFailure} (h : Matcher.runNamed r.matcher q r.params = .error f) :
    r.fails q = true := by
  rw [fails, h]
  rfl

theorem fails_of_ok {m : Option Mismatch} (h : Matcher.runNamed r.matcher q r.params = .ok m) : r.fails q = false := by
  rw [fails, h]
  rfl

theorem severity_of_evaluate {d : Diagnostic} (h : r.fault? = none) (hd : r.evaluate q = some d) :
    d.severity = if r.fails q then .error else r.severity := by
  cases hm : Matcher.runNamed r.matcher q r.params with
  | error f =>
      rw [evaluate_of_error hm] at hd
      cases hd
      rw [fails_of_error hm]
      rfl
  | ok m =>
      rw [evaluate_of_ok hm] at hd
      obtain ⟨x, _, rfl⟩ := Option.map_eq_some_iff.1 hd
      obtain ⟨message, _, hreport⟩ := report_eq h x
      rw [fails_of_ok hm, hreport]
      rfl

/-- A rule that is graded anew reports the same: in its new grade, or as an error if its check fails. -/
theorem evaluate_apply (h : r.fault? = none) : (o.apply r).evaluate q = (r.evaluate q).map fun d =>
    { d with severity := if r.fails q then .error else (o.apply r).severity } := by
  cases hm : Matcher.runNamed r.matcher q r.params with
  | error f =>
      have hm' : Matcher.runNamed (o.apply r).matcher q (o.apply r).params = .error f := hm
      rw [evaluate_of_error hm, evaluate_of_error hm', fails_of_error hm]
      rfl
  | ok m =>
      have hm' : Matcher.runNamed (o.apply r).matcher q (o.apply r).params = .ok m := hm
      rw [evaluate_of_ok hm, evaluate_of_ok hm', fails_of_ok hm, Option.map_map]
      refine congrArg (fun f => m.map f) (funext fun x => ?_)
      obtain ⟨message, hrender, hreport⟩ := report_eq h x
      have hrender' : (o.apply r).render x = .ok message := hrender
      rw [Function.comp_apply, hreport, report_of_render hrender']
      rfl

end Rule

namespace RuleSet

variable {s t : RuleSet} {q : Request} {off : List String} {severities : List (String × Severity)}

/-! ## Rules switched off or graded anew -/

/-- Changes that switch rules off and grade rules anew. -/
def Overrides.switchOff (off : List String) (severities : List (String × Severity)) : Overrides :=
  ⟨off.map fun id => (id, false), severities⟩

theorem enabled_apply_switchOff (r : Rule) :
    ((Overrides.switchOff off severities).apply r).enabled = (r.enabled && decide (r.id ∉ off)) := by
  have hget : Entries.get? r.id (off.map fun id => (id, false)) = if r.id ∈ off then some false else none := by
    induction off with
    | nil => rfl
    | cons id off ih =>
        rcases eq_or_ne id r.id with rfl | h
        · simp [Entries.get?]
        · simp [Entries.get?, h, h.symm, ih]
  have henabled : ((Overrides.switchOff off severities).apply r).enabled =
      (Entries.get? r.id (off.map fun id => (id, false))).getD r.enabled := rfl
  rw [henabled, hget]
  by_cases h : r.id ∈ off <;> simp [h]

theorem applicable_switchOff (s : RuleSet) (q : Request) :
    (s.override (.switchOff off severities)).applicable q =
      ((s.applicable q).filter fun r => decide (r.id ∉ off)).map (Overrides.switchOff off severities).apply := by
  have hserves (r : Rule) : ((Overrides.switchOff off severities).apply r).serves q =
      (decide (r.id ∉ off) && r.serves q) := by
    rw [Rule.serves, enabled_apply_switchOff, Rule.serves, Bool.and_assoc, Bool.and_left_comm]
    rfl
  rw [applicable, override, List.filter_map, applicable, List.filter_filter]
  exact congrArg _ (List.filter_congr fun r _ => hserves r)

theorem switchOff_isKnownIn (hoff : ∀ id ∈ off, id ∈ s.ids) (hgraded : ∀ id ∈ Entries.keys severities, id ∈ s.ids) :
    (Overrides.switchOff off severities).isKnownIn s = true := by
  rw [Overrides.isKnownIn_iff]
  intro id hid
  have hmem : id ∈ off ∨ id ∈ Entries.keys severities := by
    simpa [Overrides.ids, Overrides.switchOff, Entries.keys] using hid
  exact hmem.elim (hoff id) (hgraded id)

/-! ## Diagnostics of changed rules -/

/-- Whether a diagnostic about a request tells that the check of its rule failed. -/
def tellsFailure (s : RuleSet) (q : Request) (d : Diagnostic) : Bool := (s.get? d.ruleId).any fun r => r.fails q

/-- A diagnostic in the grade that its rule is given anew, if any; the failure of a check stays an error. -/
def regrade (s : RuleSet) (q : Request) (severities : List (String × Severity)) (d : Diagnostic) : Diagnostic :=
  { d with severity :=
      if s.tellsFailure q d then .error else (Entries.get? d.ruleId severities).getD d.severity }

theorem tellsFailure_of_evaluate {r : Rule} {d : Diagnostic} (hr : r ∈ s.rules) (hd : r.evaluate q = some d) :
    s.tellsFailure q d = r.fails q := by
  rw [tellsFailure, Rule.ruleId_of_evaluate hd, s.get?_id hr, Option.any_some]

theorem evaluate_switchOff {r : Rule} (hr : r ∈ s.rules) (q : Request) :
    ((Overrides.switchOff off severities).apply r).evaluate q = (r.evaluate q).map (s.regrade q severities) := by
  rw [Rule.evaluate_apply (s.sound r hr)]
  refine Option.map_congr fun d hd => ?_
  have hd := Option.mem_def.1 hd
  rw [regrade, tellsFailure_of_evaluate hr hd, Rule.severity_of_evaluate (s.sound r hr) hd, Rule.ruleId_of_evaluate hd]
  cases r.fails q <;> rfl

theorem diagnostics_validate_switchOff (s : RuleSet) (q : Request) (off : List String)
    (severities : List (String × Severity)) :
    ((s.override (.switchOff off severities)).validate q).diagnostics =
      ((s.validate q).diagnostics.filter fun d => decide (d.ruleId ∉ off)).map (s.regrade q severities) := by
  rw [diagnostics_validate, diagnostics_validate, applicable_switchOff, filter_findings fun id => decide (id ∉ off),
    findings, findings, List.filterMap_map, List.map_filterMap]
  refine List.filterMap_congr fun r hr => ?_
  exact evaluate_switchOff (List.mem_filter.1 (List.mem_filter.1 hr).1).1 q

theorem severity_of_tellsFailure {d : Diagnostic} (hd : d ∈ (s.validate q).diagnostics)
    (h : s.tellsFailure q d = true) : d.severity = .error := by
  rw [diagnostics_validate, mem_findings] at hd
  obtain ⟨r, hr, hd⟩ := hd
  have hmem := (List.mem_filter.1 hr).1
  rw [tellsFailure_of_evaluate hmem hd] at h
  rw [Rule.severity_of_evaluate (s.sound r hmem) hd, if_pos h]

/-- Switching some rules of a rule set off and grading some of its rules anew is accepted. On every request it takes the
diagnostics of the first ones out of the verdict and gives those of the others their new severities, except that the
failure of a check is an error before and after. Rules, spans and messages of the diagnostics that stay are the same, and
in the same order. -/
theorem validate_withOverrides (s : RuleSet) (q : Request) (off : List String) (severities : List (String × Severity))
    (hoff : ∀ id ∈ off, id ∈ s.ids) (hgraded : ∀ id ∈ Entries.keys severities, id ∈ s.ids) :
    ∃ t, s.withOverrides (.switchOff off severities) = .ok t ∧
      (t.validate q).diagnostics =
        ((s.validate q).diagnostics.filter fun d => decide (d.ruleId ∉ off)).map (s.regrade q severities) ∧
      (t.validate q).diagnostics.map content =
        ((s.validate q).diagnostics.filter fun d => decide (d.ruleId ∉ off)).map content ∧
      ∀ d ∈ (s.validate q).diagnostics, s.tellsFailure q d = true → d.severity = .error := by
  have hdiagnostics := s.diagnostics_validate_switchOff q off severities
  refine ⟨_, withOverrides_eq_ok_iff.2 ⟨switchOff_isKnownIn hoff hgraded, rfl⟩, hdiagnostics, ?_, ?_⟩
  · rw [hdiagnostics, List.map_map]
    rfl
  · exact fun d hd h => severity_of_tellsFailure hd h

/-- Rules about commits: the check of the first one fails, and the last one is to be switched off. -/
def gradedRules : RuleSet where
  rules := failingRules ++
    [{ id := "Gap", category := .commitMessage, matcher := "commit_separator", message := "\x7bvalue\x7d"
       severity := .error, description := "", params := [], enabled := true }]
  distinct := by decide
  sound := by decide +kernel

theorem validate_gradedRules : ∃ t,
    gradedRules.withOverrides (.switchOff ["Gap"] [("Types", .warning), ("Space", .error)]) = .ok t ∧
      (t.validate (.commit "fix:x")).diagnostics =
        [⟨"Types", .error,
            "matcher 'commit_type' failed: sequence item 0: expected str instance, bool found", none⟩,
          ⟨"Space", .error, "expected ': ' (colon followed by a space)", some (.between 3 4)⟩] := by
  obtain ⟨t, ht, hdiagnostics, _⟩ := validate_withOverrides gradedRules (.commit "fix:x") ["Gap"]
    [("Types", .warning), ("Space", .error)] (by decide) (by decide)
  refine ⟨t, ht, hdiagnostics.trans ?_⟩
  rw [diagnostics_validate]
  decide +kernel

end RuleSet

end Conventions
