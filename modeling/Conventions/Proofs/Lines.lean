import Mathlib.Algebra.BigOperators.Group.List.Basic
import Mathlib.Data.List.Forall2
import Conventions.Check
import Conventions.Report.Format
import Conventions.Proofs.DefaultRules
import Conventions.Proofs.Report
import Conventions.Proofs.Scalar

/-!
# Reports as lines

The formats for programs make one line of every diagnostic. Such an output is read line by line: it has as many lines as
diagnostics exactly if no line has a line feed in it, and no field of the line is escaped.
-/

namespace Conventions

namespace Report

/-! ## Diagnostics with their targets -/

/-- The diagnostics of a report with the targets that they are about, in order. -/
def diagnosed (r : Report) : List (Target × Diagnostic) :=
  r.entries.flatMap fun e => e.verdict.diagnostics.map (e.target, ·)

theorem mem_diagnosed_iff {r : Report} {x : Target × Diagnostic} :
    x ∈ r.diagnosed ↔ ∃ e ∈ r.entries, e.target = x.1 ∧ x.2 ∈ e.verdict.diagnostics := by
  obtain ⟨t, d⟩ := x
  simp only [diagnosed, List.mem_flatMap, List.mem_map, Prod.mk.injEq]
  refine exists_congr fun e => and_congr_right fun _ => ?_
  constructor
  · rintro ⟨_, hd, rfl, rfl⟩
    exact ⟨rfl, hd⟩
  · rintro ⟨rfl, hd⟩
    exact ⟨d, hd, rfl, rfl⟩

/-- What is made of the diagnostics in the findings is made of all diagnostics, as the other entries have none. -/
theorem flatMap_findings {α : Type} (f : Target → Diagnostic → α) (r : Report) :
    (r.findings.flatMap fun e => e.verdict.diagnostics.map (f e.target)) = r.diagnosed.map fun x => f x.1 x.2 := by
  rw [findings, diagnosed, List.map_flatMap]
  induction r.entries with
  | nil => rfl
  | cons e es ih =>
      rw [List.flatMap_cons, ← ih, List.map_map, List.filter_cons]
      cases he : e.verdict.diagnostics with
      | nil => rfl
      | cons d ds =>
          rw [if_pos (by rfl), List.flatMap_cons, he]
          rfl

theorem diagnosticLines_eq (line : Target → Diagnostic → String) (r : Report) :
    r.diagnosticLines line = r.diagnosed.map fun x => line x.1 x.2 := flatMap_findings line r

theorem countP_diagnosed (r : Report) (v : Severity) : (r.diagnosed.countP fun x => x.2.severity = v) =
    (r.entries.flatMap fun e => e.verdict.diagnostics.filter fun d => d.severity = v).length := by
  rw [diagnosed, List.countP_flatMap, List.length_flatMap]
  simp only [List.countP_map, ← List.countP_eq_length_filter, Function.comp_def]

theorem errorCount_eq_countP (r : Report) : r.errorCount = r.diagnosed.countP fun x => x.2.severity = .error :=
  (r.countP_diagnosed .error).symm

theorem warningCount_eq_countP (r : Report) : r.warningCount = r.diagnosed.countP fun x => x.2.severity = .warning :=
  (r.countP_diagnosed .warning).symm

theorem length_diagnosed (r : Report) : r.diagnosed.length = r.errorCount + r.warningCount := by
  have hwarning (x : Target × Diagnostic) : decide (x.2.severity = .warning) = !decide (x.2.severity = .error) := by
    cases x.2.severity <;> rfl
  rw [errorCount_eq_countP, warningCount_eq_countP, funext hwarning]
  simpa using List.length_eq_countP_add_countP (l := r.diagnosed) fun x => decide (x.2.severity = .error)

/-! ## Lines of an output -/

/-- The lines of an output; an empty one has none. -/
def outputLines (text : String) : List (List Char) :=
  if text = "" then [] else Text.splitOn '\n' text.toList

variable {ls : List String}

theorem toList_joinLines (ls : List String) : (joinLines ls).toList = Text.join ['\n'] (ls.map String.toList) :=
  Text.toList_intercalate_eq_join "\n" ls

theorem joinLines_eq_empty_iff (h : ∀ l ∈ ls, l ≠ "") : joinLines ls = "" ↔ ls = [] := by
  constructor
  · intro hempty
    cases ls with
    | nil => rfl
    | cons l ls =>
        have hl : l.toList ≠ [] := fun he => h l List.mem_cons_self (String.toList_eq_nil_iff.1 he)
        obtain ⟨c, hc⟩ := List.exists_mem_of_ne_nil _ hl
        have hmem : c ∈ (joinLines (l :: ls)).toList := by
          rw [toList_joinLines]
          exact Text.mem_join_of_mem (List.mem_map_of_mem List.mem_cons_self) hc
        rw [hempty] at hmem
        cases hmem
  · rintro rfl
    rfl

theorem outputLines_joinLines (h : ∀ l ∈ ls, l ≠ "") :
    outputLines (joinLines ls) = ls.flatMap fun l => Text.splitOn '\n' l.toList := by
  rw [outputLines]
  split
  · rename_i hempty
    rw [(joinLines_eq_empty_iff h).1 hempty]
    rfl
  · rename_i hne
    have hls : ls.map String.toList ≠ [] := fun hnil =>
      hne ((joinLines_eq_empty_iff h).2 (List.map_eq_nil_iff.1 hnil))
    rw [toList_joinLines, Text.splitOn_join_eq_flatMap hls, List.flatMap_map]

theorem length_flatMap_splitOn_eq_iff {α : Type} {sep : Char} {text : α → List Char} {xs : List α} :
    (xs.flatMap fun x => Text.splitOn sep (text x)).length = xs.length ↔ ∀ x ∈ xs, sep ∉ text x := by
  have hlength : (xs.flatMap fun x => Text.splitOn sep (text x)).length =
      (xs.map fun x => (text x).count sep).sum + xs.length := by
    simp [List.length_flatMap, Text.length_splitOn, List.sum_map_add]
  rw [hlength, Nat.add_eq_right, List.sum_eq_zero_iff_forall_eq_nat, List.forall_mem_map]
  simp only [List.count_eq_zero]

/-- An output has one line of a kind for each element exactly if the line of every element is of its kind and has no
line feed. -/
theorem forall₂_outputLines_iff {α : Type} {R : α → List Char → Prop} {line : α → String} {xs : List α}
    (h : ∀ x ∈ xs, line x ≠ "") : List.Forall₂ R xs (outputLines (joinLines (xs.map line))) ↔
      ∀ x ∈ xs, '\n' ∉ (line x).toList ∧ R x (line x).toList := by
  rw [outputLines_joinLines (List.forall_mem_map.2 h), List.flatMap_map]
  have hlines (hplain : ∀ x ∈ xs, '\n' ∉ (line x).toList) :
      (xs.flatMap fun x => Text.splitOn '\n' (line x).toList) = xs.map fun x => (line x).toList := by
    rw [List.flatMap_congr fun x hx => Text.splitOn_of_not_mem (hplain x hx)]
    exact List.flatMap_pure_eq_map _ _
  constructor
  · intro hforall
    have hplain := length_flatMap_splitOn_eq_iff.1 hforall.length_eq.symm
    rw [hlines hplain, List.forall₂_map_right_iff, List.forall₂_same] at hforall
    exact fun x hx => ⟨hplain x hx, hforall x hx⟩
  · intro hforall
    rw [hlines fun x hx => (hforall x hx).1, List.forall₂_map_right_iff, List.forall₂_same]
    exact fun x hx => (hforall x hx).2

variable {r : Report}

theorem joinLines_diagnosticLines_eq_empty_iff {line : Target → Diagnostic → String} (h : ∀ t d, line t d ≠ "") :
    joinLines (r.diagnosticLines line) = "" ↔ r.errorCount + r.warningCount = 0 := by
  have hne : ∀ l ∈ r.diagnosticLines line, l ≠ "" := by
    rw [diagnosticLines_eq, List.forall_mem_map]
    exact fun x _ => h x.1 x.2
  rw [joinLines_eq_empty_iff hne, diagnosticLines_eq, List.map_eq_nil_iff, ← length_diagnosed, List.length_eq_zero_iff]

theorem exists_mem_diagnosed {c : Config} (item : CheckItem) (h : (c.ruleSet.validate item.2).diagnostics ≠ []) :
    ∃ d, (item.1, d) ∈ (c.report [item] 0).diagnosed := by
  obtain ⟨d, hd⟩ := List.exists_mem_of_ne_nil _ h
  refine ⟨d, mem_diagnosed_iff.2 ⟨⟨item.1, c.ruleSet.validate item.2⟩, ?_, rfl, hd⟩⟩
  rw [Config.entries_report]
  exact List.mem_cons_self

/-! ## Lines of fields -/

variable {t : Target} {d : Diagnostic}

/-- Whether no field of a diagnostic with its target has a line feed. -/
structure HasOneLine (t : Target) (d : Diagnostic) : Prop where
  ruleId : '\n' ∉ d.ruleId.toList
  file : ∀ f ∈ t.file, '\n' ∉ f.toList
  subject : '\n' ∉ t.subject.toList
  message : '\n' ∉ d.message.toList

theorem toList_porcelainLine (t : Target) (d : Diagnostic) : (porcelainLine t d).toList =
    (d.severity.word ++ ":" ++ d.ruleId).toList ++ ':' :: ((t.file.getD "").toList ++
      ':' :: (((t.line.map toString).getD "").toList ++ ':' :: (t.subject.toList ++ ':' :: d.message.toList))) := by
  have htext (s : String) : toString s = s := rfl
  simp [porcelainLine, htext]

theorem porcelainLine_ne_empty (t : Target) (d : Diagnostic) : porcelainLine t d ≠ "" := by
  rw [← String.toList_eq_nil_iff.ne, toList_porcelainLine]
  simp

theorem newline_not_mem_porcelainLine_iff : '\n' ∉ (porcelainLine t d).toList ↔ HasOneLine t d := by
  have hword : '\n' ∉ d.severity.word.toList := by cases d.severity <;> decide
  have hfile : '\n' ∉ (t.file.getD "").toList ↔ ∀ f ∈ t.file, '\n' ∉ f.toList := by cases t.file <;> simp
  have hline : '\n' ∉ ((t.line.map toString).getD "").toList := by
    cases t.line with
    | none => decide
    | some n =>
        intro hmem
        exact absurd (Scalar.isDigit_or_hyphen_of_mem_int hmem) (by decide)
  have hfields : '\n' ∉ (porcelainLine t d).toList ↔ '\n' ∉ d.ruleId.toList ∧ (∀ f ∈ t.file, '\n' ∉ f.toList) ∧
      '\n' ∉ t.subject.toList ∧ '\n' ∉ d.message.toList := by
    rw [toList_porcelainLine, ← hfile]
    simp [hword, hline]
  exact hfields.trans ⟨fun ⟨hid, hfile, hsubject, hmessage⟩ => ⟨hid, hfile, hsubject, hmessage⟩,
    fun h => ⟨h.ruleId, h.file, h.subject, h.message⟩⟩

/-- Whether the lines of an output are those of the diagnostics of a report: as many as there are errors and warnings,
each of them with the severity and the rule of its diagnostic in front. -/
structure ListsDiagnostics (r : Report) (text : String) : Prop where
  count : (outputLines text).length = r.errorCount + r.warningCount
  lines : List.Forall₂ (fun x line => (x.2.severity.word ++ ":" ++ x.2.ruleId).toList <+: line) r.diagnosed
    (outputLines text)

theorem listsDiagnostics_porcelain_iff :
    r.ListsDiagnostics r.porcelain ↔ ∀ x ∈ r.diagnosed, HasOneLine x.1 x.2 := by
  have hlines : List.Forall₂ (fun x line => (x.2.severity.word ++ ":" ++ x.2.ruleId).toList <+: line) r.diagnosed
      (outputLines r.porcelain) ↔ ∀ x ∈ r.diagnosed, HasOneLine x.1 x.2 := by
    rw [porcelain, diagnosticLines_eq, forall₂_outputLines_iff fun x _ => porcelainLine_ne_empty x.1 x.2]
    refine forall₂_congr fun x _ => ?_
    rw [newline_not_mem_porcelainLine_iff, toList_porcelainLine]
    exact and_iff_left (List.prefix_append _ _)
  refine ⟨fun hlists => hlines.1 hlists.lines, fun hplain => ⟨?_, hlines.2 hplain⟩⟩
  rw [← r.length_diagnosed]
  exact (hlines.2 hplain).length_eq.symm

/-- A report as lines of fields is empty exactly if it has no diagnostics. Its lines are those of the diagnostics, one
for each of them and in order, exactly if no field of a diagnostic has a line feed. -/
theorem porcelain_lines (r : Report) :
    (r.porcelain = "" ↔ r.errorCount + r.warningCount = 0) ∧
      (r.ListsDiagnostics r.porcelain ↔ ∀ x ∈ r.diagnosed, HasOneLine x.1 x.2) :=
  ⟨joinLines_diagnosticLines_eq_empty_iff porcelainLine_ne_empty, listsDiagnostics_porcelain_iff⟩

/-- A branch name may have a line feed in it, and the line about it is cut there. -/
theorem not_listsDiagnostics_branch : ¬∀ (c : Config) (items : List CheckItem) (skipped : Nat),
    (c.report items skipped).ListsDiagnostics (c.report items skipped).porcelain := by
  intro hlists
  have hrules : Config.default.ruleSet.rules = rulesWith defaultParams := rfl
  have hfinds : (Config.default.ruleSet.validate (.branch "12-add\npage")).diagnostics ≠ [] := by
    rw [ne_eq, RuleSet.validate_default_eq_nil_iff hrules]
    intro hpasses
    exact absurd (hpasses .branchTitle (by decide)) (by decide)
  obtain ⟨d, hd⟩ := exists_mem_diagnosed (Config.branchItem "12-add\npage") hfinds
  have hplain := listsDiagnostics_porcelain_iff.1 (hlists .default [Config.branchItem "12-add\npage"] 0) _ hd
  have hnewline : '\n' ∈ "12-add\npage".toList := by decide
  exact hplain.subject hnewline

end Report

end Conventions
