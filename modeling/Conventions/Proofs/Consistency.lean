import Conventions.Proofs.Workflow

/-!
# Reports agree with themselves

A report tells in several ways whether its run passes and whether anything was found: by its flag, its counts and its exit
codes, and in each format. All of them are read off the diagnostics of the verdicts. The JSON holds the findings, so that
they are read back from it, and its summary counts what it lists.
-/

namespace Conventions

/-! ## Counts and exit codes -/

namespace Report

variable {r : Report}

theorem ok_iff_errorCount_eq_zero : r.ok = true ↔ r.errorCount = 0 := by
  simp only [ok, errorCount, List.all_eq_true, Verdict.ok_iff_errors_eq_nil, List.length_eq_zero_iff,
    List.flatMap_eq_nil_iff]

theorem exitCode_false_eq_zero_iff : r.exitCode false = 0 ↔ r.ok = true := by
  rw [exitCode]
  cases r.ok <;> simp

theorem exitCode_true_eq_zero_iff : r.exitCode true = 0 ↔ r.errorCount + r.warningCount = 0 := by
  rw [exitCode, Nat.add_eq_zero_iff, ← ok_iff_errorCount_eq_zero]
  cases r.ok <;> simp

theorem findings_eq_nil_iff : r.findings = [] ↔ r.errorCount + r.warningCount = 0 := by
  rw [← length_diagnosed, List.length_eq_zero_iff, diagnosed, findings, List.filter_eq_nil_iff, List.flatMap_eq_nil_iff]
  simp

end Report

/-! ## Reading JSON -/

namespace Json

/-- The value of a field of an object. -/
def field? (k : String) : Json → Option Json
  | .object fields => Entries.get? k fields
  | _ => none

def items? : Json → Option (List Json)
  | .list items => some items
  | _ => none

def text? : Json → Option String
  | .text s => some s
  | _ => none

def int? : Json → Option Int
  | .int n => some n
  | _ => none

def bool? : Json → Option Bool
  | .bool b => some b
  | _ => none

/-- What a reader finds in data that may be null. -/
def orNull {α : Type} (read : Json → Option α) : Json → Option (Option α)
  | .null => some none
  | j => (read j).map some

/-- What a reader finds in a field of an object. -/
def read? {α : Type} (k : String) (read : Json → Option α) (j : Json) : Option α := (j.field? k).bind read

/-- The items of a list in a field; there are none if the field holds no list. -/
def listed (k : String) (j : Json) : List Json := (j.read? k items?).getD []

end Json

namespace Report

def readSpan? : Json → Option Span
  | .list [.int start, .int stop] => some ⟨start, stop⟩
  | _ => none

/-- The diagnostic that JSON gives. -/
def readDiagnostic? (j : Json) : Option Diagnostic := do
  let ruleId ← j.read? "rule_id" Json.text?
  let severity ← j.read? "severity" Json.text?
  let message ← j.read? "message" Json.text?
  let span ← j.read? "span" (Json.orNull readSpan?)
  return ⟨ruleId, ← Severity.ofText? severity, message, span⟩

/-- The entry that JSON gives, if its flag is the one of the verdict. -/
def readResult? (j : Json) : Option ReportEntry := do
  let kind ← j.read? "kind" Json.text?
  let subject ← j.read? "subject" Json.text?
  let file ← j.read? "file_path" (Json.orNull Json.text?)
  let line ← j.read? "line_number" (Json.orNull Json.int?)
  let ok ← j.read? "ok" Json.bool?
  let diagnostics ← (← j.read? "diagnostics" Json.items?).mapM readDiagnostic?
  if ok = (⟨diagnostics⟩ : Verdict).ok then some ⟨⟨kind, subject, file, line⟩, ⟨diagnostics⟩⟩ else none

/-- The findings that JSON lists. -/
def readFindings? (j : Json) : Option (List ReportEntry) := do
  (← j.read? "results" Json.items?).mapM readResult?

/-- The words for the severities of all diagnostics that JSON lists. -/
def listedSeverities (j : Json) : List String :=
  ((j.listed "results").flatMap (Json.listed "diagnostics")).filterMap (Json.read? "severity" Json.text?)

/-- What every value is read back from is read back in a list. -/
theorem mapM_map_eq_some {α β : Type} {read : β → Option α} {write : α → β} (h : ∀ x, read (write x) = some x)
    (xs : List α) : (xs.map write).mapM read = some xs := by
  induction xs with
  | nil => rfl
  | cons x xs ih => rw [List.map_cons, List.mapM_cons, h, ih]; rfl

theorem readDiagnostic?_diagnosticJson (d : Diagnostic) : readDiagnostic? (diagnosticJson d) = some d := by
  have hspan : Json.orNull readSpan? ((d.span.map fun s => Json.list [.int s.start, .int s.stop]).getD .null) =
      some d.span := by cases d.span <;> rfl
  have hseverity : Severity.ofText? d.severity.word = some d.severity := by cases d.severity <;> decide
  simp [readDiagnostic?, diagnosticJson, Json.read?, Json.field?, Entries.get?, Json.text?, hspan, hseverity]

theorem readResult?_entryJson (e : ReportEntry) : readResult? (entryJson e) = some e := by
  have hfile : Json.orNull Json.text? ((e.target.file.map Json.text).getD .null) = some e.target.file := by
    cases e.target.file <;> rfl
  have hline : Json.orNull Json.int? ((e.target.line.map Json.int).getD .null) = some e.target.line := by
    cases e.target.line <;> rfl
  have hdiagnostics := mapM_map_eq_some readDiagnostic?_diagnosticJson e.verdict.diagnostics
  simp [readResult?, entryJson, Json.read?, Json.field?, Entries.get?, Json.text?, Json.bool?, Json.items?, hfile, hline,
    hdiagnostics]

theorem readFindings?_toJson (r : Report) : readFindings? r.toJson = some r.findings :=
  mapM_map_eq_some readResult?_entryJson r.findings

theorem listed_results_toJson (r : Report) : r.toJson.listed "results" = r.findings.map entryJson := by
  simp [toJson, Json.listed, Json.read?, Json.field?, Entries.get?, Json.items?]

theorem listed_diagnostics_entryJson (e : ReportEntry) :
    (entryJson e).listed "diagnostics" = e.verdict.diagnostics.map diagnosticJson := by
  simp [entryJson, Json.listed, Json.read?, Json.field?, Entries.get?, Json.items?]

theorem read?_severity_diagnosticJson (d : Diagnostic) :
    (diagnosticJson d).read? "severity" Json.text? = some d.severity.word := by
  simp [diagnosticJson, Json.read?, Json.field?, Entries.get?, Json.text?]

theorem listedSeverities_toJson (r : Report) :
    listedSeverities r.toJson = r.diagnosed.map fun x => x.2.severity.word := by
  have hdiagnostics (e : ReportEntry) :
      ((e.verdict.diagnostics.map diagnosticJson).filterMap (Json.read? "severity" Json.text?)) =
        e.verdict.diagnostics.map fun d => d.severity.word := by
    simp only [List.filterMap_map, Function.comp_def, read?_severity_diagnosticJson, List.filterMap_eq_map']
  -- only findings are listed, and the other entries have no diagnostics
  rw [listedSeverities, listed_results_toJson, List.flatMap_map]
  simp only [listed_diagnostics_entryJson, List.filterMap_flatMap, hdiagnostics]
  exact flatMap_findings (fun _ d => d.severity.word) r

theorem count_listedSeverities_toJson (r : Report) (v : Severity) :
    (listedSeverities r.toJson).count v.word = r.diagnosed.countP fun x => x.2.severity = v := by
  have hword (w : Severity) : (w.word == v.word) = decide (w = v) := by cases w <;> cases v <;> decide
  rw [listedSeverities_toJson, List.count, List.countP_map]
  simp only [Function.comp_def, hword]

/-- Whether JSON tells the findings of a report: it lists exactly them and in order, and its summary counts the diagnostics
that it lists by their severities and passes if none is an error. -/
structure TellsFindings (r : Report) (j : Json) : Prop where
  results : readFindings? j = some r.findings
  errors : (j.field? "summary").bind (Json.read? "errors" Json.int?) = some ((listedSeverities j).count "error" : Int)
  warnings : (j.field? "summary").bind (Json.read? "warnings" Json.int?) = some ((listedSeverities j).count "warn" : Int)
  ok : (j.field? "summary").bind (Json.read? "ok" Json.bool?) = some ((listedSeverities j).count "error" == 0)

theorem tellsFindings_toJson (r : Report) : r.TellsFindings r.toJson := by
  have herrors : (listedSeverities r.toJson).count "error" = r.errorCount :=
    (r.count_listedSeverities_toJson .error).trans r.errorCount_eq_countP.symm
  have hwarnings : (listedSeverities r.toJson).count "warn" = r.warningCount :=
    (r.count_listedSeverities_toJson .warning).trans r.warningCount_eq_countP.symm
  refine ⟨r.readFindings?_toJson, ?_, ?_, ?_⟩
  · rw [herrors]
    rfl
  · rw [hwarnings]
    rfl
  · exact congrArg some (Bool.eq_iff_iff.2 (by rw [ok_iff_errorCount_eq_zero, beq_iff_eq, herrors]))

/-! ## The first line for people -/

/-- The line that a report without findings begins with. -/
def passedLine (r : Report) : String :=
  s!"✓ All {r.entries.length} check{plural r.entries.length} passed "
    ++ s!"({r.rulesEvaluated} rules, {(r.elapsed.divNat 1000).onePlaceText}s)"

theorem newline_not_mem_toDigits (n : Nat) : '\n' ∉ Nat.toDigits 10 n := fun h =>
  absurd (Nat.isDigit_of_mem_toDigits (by decide) (by decide) h) (by decide)

theorem newline_not_mem_onePlaceText (x : Binary64) : '\n' ∉ x.onePlaceText.toList := by
  have hsign (s : Bool) : '\n' ∉ Binary64.signText s := by cases s <;> decide
  have htext (n : Nat) : toString n = n.repr := rfl
  cases x with
  | finite s m e => simp [Binary64.onePlaceText, htext, hsign, newline_not_mem_toDigits]
  | infinite s => simp [Binary64.onePlaceText, hsign]
  | nan => decide

theorem newline_not_mem_passedLine (r : Report) : '\n' ∉ r.passedLine.toList := by
  have htext (s : String) : toString s = s := rfl
  have hnumber (n : Nat) : toString n = n.repr := rfl
  have hplural (n : Nat) : '\n' ∉ (plural n).toList := by
    rw [plural]
    split <;> decide
  simp [passedLine, htext, hnumber, hplural, newline_not_mem_toDigits, newline_not_mem_onePlaceText]

theorem head?_passedLine (r : Report) : r.passedLine.toList.head? = some '✓' := by
  simp [passedLine, toString]

theorem head?_headline (e : ReportEntry) :
    (headline e).toList.head? = some (if e.verdict.ok = true then '!' else '✗') := by
  cases h : e.verdict.ok <;> simp [headline, h, toString]

variable {r : Report}

theorem exists_rich_of_nil (h : r.findings = []) : ∃ ls, r.rich = joinLines (r.passedLine :: ls) := by
  have hsummary : r.summaryLine = r.passedLine := by simp [summaryLine, passedLine, h, toString]
  exact ⟨_, by rw [rich, h, hsummary]; rfl⟩

theorem exists_rich_of_cons {e : ReportEntry} {es : List ReportEntry} (h : r.findings = e :: es) :
    ∃ ls, r.rich = joinLines (headline e :: ls) := ⟨_, by rw [rich, h, List.flatMap_cons]; rfl⟩

theorem isPrefix_joinLines_iff {l w : String} {ls : List String} (h : '\n' ∉ w.toList) :
    w.toList <+: (joinLines (l :: ls)).toList ↔ w.toList <+: l.toList := by
  rw [toList_joinLines, List.map_cons, Text.isPrefix_join_iff h]

theorem before_joinLines {l : String} (h : '\n' ∉ l.toList) (ls : List String) :
    Text.before '\n' (joinLines (l :: ls)).toList = l.toList := by
  rw [toList_joinLines, List.map_cons]
  cases ls with
  | nil => exact Text.before_of_not_mem h
  | cons k ks => rw [List.map_cons, Text.join_cons_cons, Text.before_append h]

theorem isPrefix_rich_iff : r.passedLine.toList <+: r.rich.toList ↔ r.findings = [] := by
  cases h : r.findings with
  | nil =>
      obtain ⟨ls, hrich⟩ := exists_rich_of_nil h
      rw [hrich, isPrefix_joinLines_iff r.newline_not_mem_passedLine]
      simp
  | cons e es =>
      obtain ⟨ls, hrich⟩ := exists_rich_of_cons h
      rw [hrich, isPrefix_joinLines_iff r.newline_not_mem_passedLine]
      refine iff_of_false ?_ (List.cons_ne_nil e es)
      rintro ⟨rest, hrest⟩
      -- the marks in front differ
      have hmark := congrArg List.head? hrest
      rw [List.head?_append, head?_passedLine, head?_headline, Option.some_or] at hmark
      cases hok : e.verdict.ok <;> simp [hok] at hmark

theorem before_rich_iff : Text.before '\n' r.rich.toList = r.passedLine.toList ↔ r.findings = [] := by
  constructor
  · intro hbefore
    rw [← isPrefix_rich_iff, ← hbefore]
    exact List.takeWhile_prefix _
  · intro h
    obtain ⟨ls, hrich⟩ := exists_rich_of_nil h
    rw [hrich, before_joinLines r.newline_not_mem_passedLine]

/-! ## What a report tells of itself -/

/-- Whether all ways in which a report tells about its errors agree, and all ways in which it tells whether there are
findings. -/
structure IsConsistent (r : Report) : Prop where
  ok : r.ok = true ↔ r.errorCount = 0
  exitCode : r.exitCode false = 0 ↔ r.ok = true
  strict : r.exitCode true = 0 ↔ r.findings = []
  counts : r.errorCount + r.warningCount = 0 ↔ r.findings = []
  porcelain : r.porcelain = "" ↔ r.findings = []
  github : r.github = "" ↔ r.findings = []
  rich : r.passedLine.toList <+: r.rich.toList ↔ r.findings = []
  firstLine : Text.before '\n' r.rich.toList = r.passedLine.toList ↔ r.findings = []
  json : r.TellsFindings r.toJson

theorem isConsistent (r : Report) : r.IsConsistent where
  ok := ok_iff_errorCount_eq_zero
  exitCode := exitCode_false_eq_zero_iff
  strict := exitCode_true_eq_zero_iff.trans findings_eq_nil_iff.symm
  counts := findings_eq_nil_iff.symm
  porcelain := (joinLines_diagnosticLines_eq_empty_iff porcelainLine_ne_empty).trans findings_eq_nil_iff.symm
  github := (joinLines_diagnosticLines_eq_empty_iff command_ne_empty).trans findings_eq_nil_iff.symm
  rich := isPrefix_rich_iff
  firstLine := before_rich_iff
  json := r.tellsFindings_toJson

end Report

/-- Checks are reported whatever is checked, unless there are several of them and no worker may work. Such a report agrees
with itself however long the checks took. -/
theorem Config.run_consistently (c : Config) (items : List CheckItem) (skipped : Nat) (elapsed : Binary64) :
    ∃ r, c.run items skipped none = .ok r ∧
      (∀ workers, c.run items skipped workers = .ok r ∨ c.run items skipped workers = .error ⟨⟩) ∧
      r.entries = items.map (fun item => ⟨item.1, c.ruleSet.validate item.2⟩) ∧
      ({ r with elapsed := elapsed } : Report).IsConsistent := by
  refine ⟨c.report items skipped, ?_, fun workers => ?_, c.entries_report items skipped, Report.isConsistent _⟩
  · have hworkers : RuleSet.checkWorkers items.length none = .ok () := by simp [RuleSet.checkWorkers]
    rw [run, hworkers]
    rfl
  · rw [run, RuleSet.checkWorkers]
    split
    · exact Or.inr rfl
    · exact Or.inl rfl

end Conventions
