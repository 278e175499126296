import Conventions.Severity

/-!
# Findings

A mismatch is what a check reports about a request; a diagnostic is the finding of a rule, with a
message and a severity; a verdict is the list of diagnostics for one request. A verdict is good if
none of them is an error.
-/

namespace Conventions

/-- A part of the checked text, from one offset up to another. -/
structure Span where
  start : Int
  stop : Int
deriving DecidableEq, Repr, Inhabited

/-- The part of a text between two offsets. -/
def Span.between (start stop : Nat) : Span := ⟨start, stop⟩

/-- What a failed check reports: the value, what was expected, the offending part and a reason. -/
structure Mismatch where
  value : String
  expected : String
  span : Option Span
  detail : String
deriving DecidableEq, Repr

/-- The finding of a rule about a request. -/
structure Diagnostic where
  ruleId : String
  severity : Severity
  message : String
  span : Option Span
deriving DecidableEq, Repr

/-- The findings about one request. -/
structure Verdict where
  diagnostics : List Diagnostic
deriving DecidableEq, Repr

namespace Verdict

/-- The findings that block. -/
def errors (v : Verdict) : List Diagnostic := v.diagnostics.filter fun d => d.severity = .error

/-- The findings that do not block. -/
def warnings (v : Verdict) : List Diagnostic := v.diagnostics.filter fun d => d.severity = .warning

/-- Whether nothing blocks. -/
def ok (v : Verdict) : Bool := v.diagnostics.all fun d => d.severity ≠ .error

theorem ok_iff_errors_eq_nil (v : Verdict) : v.ok = true ↔ v.errors = [] := by
  simp [ok, errors, List.filter_eq_nil_iff]

end Verdict

end Conventions
