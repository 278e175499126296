import Mathlib.Data.List.Basic
import Conventions.Report
import Conventions.Proofs.Matcher
import Conventions.Proofs.Template
import Conventions.Proofs.Validation

/-!
# Reports and grades

A report has one entry for each item, in order, with the verdict on its own request. The grades of a verdict, which are
the rules and the severities of its diagnostics, decide on the exit code of the report. They depend on whether a check
finds something, and not on what it says about it.
-/

namespace Conventions

/-! ## Entries -/

theorem Config.entries_report (c : Config) (items : List CheckItem) (skipped : Nat) :
    (c.report items skipped).entries = items.map fun item => ⟨item.1, c.ruleSet.validate item.2⟩ := by
  induction items with
  | nil => rfl
  | cons item items ih => simpa [report, RuleSet.validateAll] using ih

/-! ## Grades -/

/-- The rule and the severity of a diagnostic. -/
def Diagnostic.grade (d : Diagnostic) : String × Severity := (d.ruleId, d.severity)

namespace Verdict

/-- The rules and the severities of the diagnostics of a verdict. -/
def grades (v : Verdict) : List (String × Severity) := v.diagnostics.map Diagnostic.grade

/-- The rules of the diagnostics of a verdict. -/
def ruleIds (v : Verdict) : List String := v.diagnostics.map Diagnostic.ruleId

theorem map_fst_grades (v : Verdict) : v.grades.map Prod.fst = v.ruleIds := by
  rw [grades, List.map_map]
  rfl

theorem ok_eq_grades (v : Verdict) : v.ok = v.grades.all fun g => g.2 ≠ .error := by
  rw [grades, List.all_map]
  rfl

theorem length_warnings (v : Verdict) : v.warnings.length = (v.grades.filter fun g => g.2 = .warning).length := by
  rw [grades, List.filter_map, List.length_map]
  rfl

end Verdict

namespace Report

/-- The grades of the verdicts in a report. -/
def grades (r : Report) : List (List (String × Severity)) := r.entries.map fun e => e.verdict.grades

/-- The rules of the diagnostics in a report, entry by entry. -/
def ruleIds (r : Report) : List String := r.entries.flatMap fun e => e.verdict.ruleIds

theorem ruleIds_eq_grades (r : Report) : r.ruleIds = r.grades.flatMap fun gs => gs.map Prod.fst := by
  rw [ruleIds, grades, List.flatMap_map]
  simp only [Verdict.map_fst_grades]

theorem ok_eq_grades (r : Report) : r.ok = r.grades.all fun gs => gs.all fun g => g.2 ≠ .error := by
  simp only [ok, grades, Verdict.ok_eq_grades, List.all_map, Function.comp_def]

theorem warningCount_eq_grades (r : Report) :
    r.warningCount = (r.grades.flatMap fun gs => gs.filter fun g => g.2 = .warning).length := by
  simp only [warningCount, grades, List.flatMap_map, List.length_flatMap, Verdict.length_warnings]

variable {r r' : Report}

theorem ruleIds_congr (h : r.grades = r'.grades) : r.ruleIds = r'.ruleIds := by
  rw [ruleIds_eq_grades, ruleIds_eq_grades, h]

/-- Reports with the same grades have the same exit code. -/
theorem exitCode_congr (h : r.grades = r'.grades) (failOnWarn : Bool) :
    r.exitCode failOnWarn = r'.exitCode failOnWarn := by
  rw [exitCode, exitCode, ok_eq_grades, ok_eq_grades, warningCount_eq_grades, warningCount_eq_grades, h]

end Report

/-! ## Exit codes -/

/-- Whether a verdict lets a run pass: it has no errors, and on request no warnings either. -/
def Verdict.passes (v : Verdict) (failOnWarn : Bool) : Bool := v.ok && !(failOnWarn && !v.warnings.isEmpty)

/-- A run exits with zero if all its verdicts let it pass, and with one otherwise. -/
theorem Report.exitCode_eq (r : Report) (failOnWarn : Bool) :
    r.exitCode failOnWarn = if (r.entries.all fun e => e.verdict.passes failOnWarn) = true then 0 else 1 := by
  have hpasses : (r.entries.all fun e => e.verdict.passes failOnWarn) = true ↔
      r.ok = true ∧ (failOnWarn = true → r.warningCount = 0) := by
    rw [warningCount, List.length_eq_zero_iff, List.flatMap_eq_nil_iff]
    cases failOnWarn <;> simp [Verdict.passes, ok, forall_and]
  rw [exitCode]
  simp only [hpasses]
  cases r.ok <;> cases failOnWarn <;> simp

theorem Config.exitCode_report_of_passes (c : Config) (items : List CheckItem) (skipped : Nat) (failOnWarn : Bool) :
    (c.report items skipped).exitCode failOnWarn =
      if (items.all fun item => (c.ruleSet.validate item.2).passes failOnWarn) = true then 0 else 1 := by
  rw [Report.exitCode_eq, entries_report, List.all_map]
  rfl

theorem Config.exitCode_report (c : Config) (items : List CheckItem) (skipped : Nat) :
    (c.report items skipped).exitCode false =
      if items.all fun item => (RuleSet.findings (c.ruleSet.applicable item.2) item.2).all fun d => d.severity ≠ .error
      then 0 else 1 := by
  rw [exitCode_report_of_passes]
  simp only [Verdict.passes, Verdict.ok, RuleSet.diagnostics_validate, Bool.false_and, Bool.not_false, Bool.and_true]

/-! ## Grades and checks -/

namespace Rule

variable {q q' : Request} {r : Rule}

/-- The template of a sound rule can be filled in, so that the rule reports in its own severity. -/
theorem report_eq (h : r.fault? = none) (m : Mismatch) :
    ∃ message, r.render m = .ok message ∧ r.report m = ⟨r.id, r.severity, message, m.span⟩ := by
  obtain ⟨_, htemplate, _⟩ := eq_none_of_fault? h
  have hrender := render_eq_ok htemplate m
  exact ⟨_, hrender, report_of_render hrender⟩

theorem grade_report (h : r.fault? = none) (m : Mismatch) : (r.report m).grade = (r.id, r.severity) := by
  obtain ⟨message, _, hreport⟩ := report_eq h m
  rw [hreport]
  rfl

/-- The grade of what a sound rule reports depends on whether its check finds something. -/
theorem grade_evaluate_congr (h : r.fault? = none)
    (hrun : (Matcher.runNamed r.matcher q r.params).map Option.isSome =
      (Matcher.runNamed r.matcher q' r.params).map Option.isSome) :
    (r.evaluate q).map Diagnostic.grade = (r.evaluate q').map Diagnostic.grade := by
  have hgrade (q : Request) : (r.evaluate q).map Diagnostic.grade =
      match (Matcher.runNamed r.matcher q r.params).map Option.isSome with
      | .error _ => some (r.id, .error)
      | .ok found => if found then some (r.id, r.severity) else none := by
    cases hm : Matcher.runNamed r.matcher q r.params with
    | error f =>
        rw [evaluate_of_error hm]
        rfl
    | ok m =>
        rw [evaluate_of_ok hm]
        cases m with
        | none => rfl
        | some m => exact congrArg some (grade_report h m)
  rw [hgrade q, hgrade q', hrun]

end Rule

theorem RuleSet.grades_validate_congr {q q' : Request} (hcategories : q.categories = q'.categories)
    (h : ∀ (c : Matcher) ps, (c.run q ps).map Option.isSome = (c.run q' ps).map Option.isSome) (s : RuleSet) :
    (s.validate q).grades = (s.validate q').grades := by
  rw [Verdict.grades, Verdict.grades, diagnostics_validate, diagnostics_validate, findings, findings,
    List.map_filterMap, List.map_filterMap, applicable_congr hcategories]
  refine List.filterMap_congr fun r hr => Rule.grade_evaluate_congr (s.sound r (List.mem_filter.1 hr).1) ?_
  unfold Matcher.runNamed
  split
  · exact h _ _
  · rfl

end Conventions
