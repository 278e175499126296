import Conventions.Log
import Conventions.RuleSet

/-!
# Validation

A request is validated by the enabled rules of its categories. A rule gives at most one diagnostic; a
check or a template that fails gives an error. The diagnostics of a verdict are ordered by the position
of their rule, then by span, then by message, and a second one with the same rule and span is dropped.
-/

namespace Conventions

namespace Rule

/-- Whether a rule serves a request: it is enabled and of one of the categories of the request. -/
def serves (r : Rule) (q : Request) : Bool := r.enabled && q.categories.contains r.category

/-- The finding about a check that could not be carried out. -/
def failedCheck (r : Rule) (f : MatchFailure) : Diagnostic :=
  ⟨r.id, .error, s!"matcher '{r.matcher}' failed: {f.message}", none⟩

/-- The finding of a rule about a mismatch. -/
def report (r : Rule) (m : Mismatch) : Diagnostic :=
  match r.render m with
  | .ok message => ⟨r.id, r.severity, message, m.span⟩
  | .error f =>
    ⟨r.id, .error, s!"message template failed: {f.shown} (value '{m.value}')", m.span⟩

/-- The finding of a rule about a request. -/
def evaluate (r : Rule) (q : Request) : Option Diagnostic :=
  match Matcher.runNamed r.matcher q r.params with
  | .error f => some (r.failedCheck f)
  | .ok m => m.map r.report

end Rule

namespace RuleSet

/-- The rules that serve a request, in order. -/
def applicable (s : RuleSet) (q : Request) : List Rule := s.rules.filter fun r => r.serves q

/-- The order of two spans; no span comes before every span with offsets. -/
def compareSpans (a b : Option Span) : Ordering :=
  let a := a.getD ⟨-1, -1⟩
  let b := b.getD ⟨-1, -1⟩
  (compare a.start b.start).then (compare a.stop b.stop)

/-- The order of two diagnostics: by position of the rule, by span, by message. -/
def compareDiagnostics (s : RuleSet) (a b : Diagnostic) : Ordering :=
  (compare (s.indexOf a.ruleId) (s.indexOf b.ruleId)).then
    ((compareSpans a.span b.span).then (compare a.message b.message))

/-- Whether a diagnostic does not come after another one. -/
def notAfter (s : RuleSet) (a b : Diagnostic) : Bool := s.compareDiagnostics a b ≠ .gt

/-- What two diagnostics must share for the second one to be dropped. -/
def duplicateKey (d : Diagnostic) : String × Option Span := (d.ruleId, d.span)

/-- Keeps the first diagnostic of each rule and span, given the ones that are taken. -/
def dropDuplicates (taken : List (String × Option Span)) : List Diagnostic → List Diagnostic
  | [] => []
  | d :: ds =>
    if duplicateKey d ∈ taken then dropDuplicates taken ds
    else d :: dropDuplicates (duplicateKey d :: taken) ds

/-- The verdict of diagnostics, in whatever order they come. -/
def aggregate (s : RuleSet) (ds : List Diagnostic) : Verdict :=
  ⟨dropDuplicates [] (ds.mergeSort s.notAfter)⟩

/-- The verdict on a request. -/
def validate (s : RuleSet) (q : Request) : Verdict :=
  s.aggregate ((s.applicable q).filterMap fun r => r.evaluate q)

/-- The note about the failure of a rule on a request. -/
def failureLog (r : Rule) (q : Request) : List LogLine :=
  match Matcher.runNamed r.matcher q r.params with
  | .error f =>
    [⟨.warning, .validation, s!"Matcher '{r.matcher}' failed for rule {r.id}: {f.message}"⟩]
  | .ok none => []
  | .ok (some m) =>
    match r.render m with
    | .ok _ => []
    | .error f => [⟨.warning, .validation, s!"Message template of rule {r.id} failed: {f.text}"⟩]

/-- The notes about the validation of a request. -/
def validationLog (s : RuleSet) (q : Request) : List LogLine :=
  let rules := s.applicable q
  ⟨.debug, .validation, s!"Validating {q.formName} with {rules.length} rule(s)"⟩
    :: rules.flatMap fun r => failureLog r q

/-- A number of workers that cannot work. -/
structure NoWorkers where
deriving DecidableEq, Repr

/-- The message about a number of workers. -/
def NoWorkers.message (_ : NoWorkers) : String := "max_workers must be greater than 0"

/-- Refuses a number of workers below one if there is work to share among them. -/
def checkWorkers (requests : Nat) (workers : Option Int) : Except NoWorkers Unit :=
  if 1 < requests && workers.any (· ≤ 0) then .error ⟨⟩ else .ok ()

/-- The verdicts on several requests, in their order. -/
def validateAll (s : RuleSet) (qs : List Request) : List Verdict := qs.map s.validate

end RuleSet

end Conventions
