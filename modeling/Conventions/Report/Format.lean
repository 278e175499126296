import Conventions.Report
import Conventions.Json

/-!
# Formats of reports

A report is shown as text for people, as JSON, as one line of fields for each diagnostic, or as one workflow
command for each diagnostic.
-/

namespace Conventions

/-- A way to show a report. -/
inductive ReportFormat where
  | rich
  | json
  | porcelain
  | github
deriving DecidableEq, Repr

namespace ReportFormat

/-- Every format. -/
def all : List ReportFormat := [.rich, .json, .porcelain, .github]

/-- The word for a format. -/
def word : ReportFormat → String
  | .rich => "rich"
  | .json => "json"
  | .porcelain => "porcelain"
  | .github => "github"

/-- The format of a word. -/
def ofWord? (w : String) : Option ReportFormat := all.find? fun f => f.word == w

end ReportFormat

namespace Report

/-- Lines as one text. -/
def joinLines (ls : List String) : String := "\n".intercalate ls

/-- The ending of a word that counts several things. -/
def plural (n : Nat) : String := if n = 1 then "" else "s"

/-- The line above the diagnostics of an entry. -/
def headline (e : ReportEntry) : String :=
  let mark := if e.verdict.ok then "!" else "✗"
  let place := match e.target.location? with
    | some l => if l = e.target.subject then "" else s!" ({l})"
    | none => ""
  s!"{mark} {e.target.kind}: {e.target.subject}{place}"

/-- An entry for people: a headline, the diagnostics, and an empty line. -/
def richLines (e : ReportEntry) : List String :=
  headline e :: (e.verdict.diagnostics.map fun d =>
    s!"  [{d.severity.word}] {d.ruleId}: {d.message}") ++ [""]

/-- The line that sums up a report. -/
def summaryLine (r : Report) : String :=
  let checks := r.entries.length
  let tail := s!"({r.rulesEvaluated} rules, {(r.elapsed.divNat 1000).onePlaceText}s)"
  if r.findings.isEmpty then s!"✓ All {checks} check{plural checks} passed {tail}"
  else
    s!"{r.errorCount} error{plural r.errorCount}, {r.warningCount} warning{plural r.warningCount} "
      ++ s!"in {checks} check{plural checks} {tail}"

/-- A report for people. -/
def rich (r : Report) : String :=
  joinLines (r.findings.flatMap richLines ++ [r.summaryLine]
    ++ (if r.skipped = 0 then [] else [s!"{r.skipped} file(s) ignored"]))

/-- A diagnostic as JSON. -/
def diagnosticJson (d : Diagnostic) : Json :=
  .object [("rule_id", .text d.ruleId), ("severity", .text d.severity.word),
    ("message", .text d.message),
    ("span", (d.span.map fun s => Json.list [.int s.start, .int s.stop]).getD .null)]

/-- An entry as JSON. -/
def entryJson (e : ReportEntry) : Json :=
  .object [("kind", .text e.target.kind), ("subject", .text e.target.subject),
    ("file_path", (e.target.file.map Json.text).getD .null),
    ("line_number", (e.target.line.map Json.int).getD .null),
    ("ok", .bool e.verdict.ok),
    ("diagnostics", .list (e.verdict.diagnostics.map diagnosticJson))]

/-- The summary of a report as JSON. -/
def summaryJson (r : Report) : Json :=
  .object [("ok", .bool r.ok), ("checks", .int r.entries.length), ("errors", .int r.errorCount),
    ("warnings", .int r.warningCount), ("skipped", .int r.skipped),
    ("rules_evaluated", .int r.rulesEvaluated), ("elapsed_ms", .float r.elapsed)]

/-- A report as JSON: the findings, and a summary. -/
def toJson (r : Report) : Json :=
  .object [("results", .list (r.findings.map entryJson)), ("summary", r.summaryJson)]

/-- The line of fields for a diagnostic. -/
def porcelainLine (t : Target) (d : Diagnostic) : String :=
  let file := t.file.getD ""
  let line := (t.line.map toString).getD ""
  s!"{d.severity.word}:{d.ruleId}:{file}:{line}:{t.subject}:{d.message}"

/-- The lines that a format makes of diagnostics, in order. -/
def diagnosticLines (line : Target → Diagnostic → String) (r : Report) : List String :=
  r.findings.flatMap fun e => e.verdict.diagnostics.map (line e.target)

/-- A report as lines of fields. -/
def porcelain (r : Report) : String := joinLines (r.diagnosticLines porcelainLine)

/-- A character in a workflow command: the percent sign and the ends of lines are escaped. -/
def escapeDataChar (c : Char) : List Char :=
  if c = '%' then ['%', '2', '5']
  else if c = '\r' then ['%', '0', 'D']
  else if c = '\n' then ['%', '0', 'A']
  else [c]

/-- A text in a workflow command. -/
def escapeData (s : String) : String :=
  String.ofList (s.toList.flatMap escapeDataChar)

/-- The properties of a workflow command: the file, the line and the title. -/
def commandProperties (t : Target) (d : Diagnostic) : List String :=
  let place := match t.file, t.line with
    | none, _ => []
    | some f, none => [s!"file={f}"]
    | some f, some n => [s!"file={f}", s!"line={n}"]
  place ++ [s!"title={escapeData d.ruleId}"]

/-- The workflow command for a diagnostic. -/
def workflowCommand (t : Target) (d : Diagnostic) : String :=
  let command := match d.severity with
    | .error => "error"
    | .warning => "warning"
  "::" ++ command ++ " " ++ ",".intercalate (commandProperties t d) ++ "::"
    ++ escapeData d.message

/-- A report as workflow commands. -/
def github (r : Report) : String := joinLines (r.diagnosticLines workflowCommand)

/-- A report in a format. -/
def render (r : Report) : ReportFormat → String
  | .rich => r.rich
  | .json => r.toJson.render
  | .porcelain => r.porcelain
  | .github => r.github

end Report

end Conventions
