import Conventions.Config
import Conventions.Validation

/-!
# Reports

A check run validates a list of requests, each with a target that says what it is about, and reports the
verdicts in the same order. The run passes if no verdict has an error.
-/

namespace Conventions

/-- What a request is about, with its place in the project. -/
structure Target where
  kind : String
  subject : String
  file : Option String
  line : Option Int
deriving DecidableEq, Repr

/-- The place of a target: its file, and its line if there is one. -/
def Target.location? (t : Target) : Option String :=
  t.file.map fun f =>
    match t.line with
    | some n => s!"{f}:{n}"
    | none => f

/-- A target with the verdict about it. -/
structure ReportEntry where
  target : Target
  verdict : Verdict
deriving DecidableEq, Repr

/-- The outcome of a check run. -/
structure Report where
  entries : List ReportEntry
  rulesEvaluated : Nat
  skipped : Nat
  elapsed : Binary64
deriving DecidableEq, Repr

namespace Report

/-- Whether no verdict has an error. -/
def ok (r : Report) : Bool := r.entries.all fun e => e.verdict.ok

/-- The entries with a diagnostic. -/
def findings (r : Report) : List ReportEntry :=
  r.entries.filter fun e => !e.verdict.diagnostics.isEmpty

/-- The number of errors. -/
def errorCount (r : Report) : Nat := (r.entries.flatMap fun e => e.verdict.errors).length

/-- The number of warnings. -/
def warningCount (r : Report) : Nat := (r.entries.flatMap fun e => e.verdict.warnings).length

/-- The exit code: zero if the run passes, and on request only if it has no warnings either. -/
def exitCode (r : Report) (failOnWarn : Bool) : Nat :=
  if !r.ok then 1 else if failOnWarn && r.warningCount ≠ 0 then 1 else 0

end Report

/-- A request with what it is about. -/
abbrev CheckItem := Target × Request

namespace Config

/-- Validates requests and reports the verdicts in the same order. -/
def report (c : Config) (items : List CheckItem) (skipped : Nat) : Report where
  entries := (items.zip (c.ruleSet.validateAll (items.map Prod.snd))).map fun e => ⟨e.1.1, e.2⟩
  rulesEvaluated := (c.ruleSet.rules.filter Rule.enabled).length
  skipped
  elapsed := .ofInt 0

/-- Validates requests with a number of workers. -/
def run (c : Config) (items : List CheckItem) (skipped : Nat) (workers : Option Int) :
    Except RuleSet.NoWorkers Report :=
  (RuleSet.checkWorkers items.length workers).map fun _ => c.report items skipped

end Config

end Conventions
