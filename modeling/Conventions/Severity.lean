import Conventions.Text.Blank
import Conventions.Text.Split
import Conventions.Text.Quoted

/-!
# Severities

A finding is an error or a warning, and only errors block. A severity is written `error`, `warn` or
`warning`, in any case and with blanks around it.
-/

namespace Conventions

/-- How much a finding weighs. -/
inductive Severity where
  | error
  | warning
deriving DecidableEq, Repr, Inhabited

namespace Severity

/-- The word for a severity in reports and configuration. -/
def word : Severity → String
  | .error => "error"
  | .warning => "warn"

/-- The words for severities, in alphabetical order. -/
def words : List String := ["error", "warn"]

/-- The severity that a text names. -/
def ofText? (s : String) : Option Severity :=
  let w := Text.lower (Text.trim s.toList)
  if w = "warning".toList ∨ w = "warn".toList then some .warning
  else if w = "error".toList then some .error
  else none

end Severity

/-- A text that names no severity. -/
structure InvalidSeverity where
  raw : String
deriving DecidableEq, Repr

/-- The message about a text that names no severity. -/
def InvalidSeverity.message (e : InvalidSeverity) : String :=
  s!"invalid severity '{e.raw}', must be one of {Text.quotedList Severity.words}"

/-- Reads a severity. -/
def Severity.read (s : String) : Except InvalidSeverity Severity :=
  match Severity.ofText? s with
  | some v => .ok v
  | none => .error ⟨s⟩

end Conventions
