import Conventions.Log
import Conventions.Text.Blank
import Conventions.Text.Order
import Conventions.Text.Quoted
import Conventions.Text.Split

/-!
# Git

What a call of git tells: the name of the current branch, and the files of the project. A call can fail
to start, run out of time, or end with a code, an output and an error text. A branch name is missing when
the head of the repository is detached.
-/

namespace Conventions

/-- How a call of git ends. -/
inductive GitOutcome where
  | missing
  | timeout
  | finished (code : Int) (stdout stderr : String)
deriving DecidableEq, Repr

/-- Why a call of git gives no answer. -/
inductive GitFault where
  | detached
  | notRun (reason : String)
  | failed (call : List String) (reason : String)
deriving DecidableEq, Repr

/-- The message about a call of git. -/
def GitFault.message : GitFault → String
  | .detached => "HEAD is detached; no branch name to check"
  | .notRun reason => s!"cannot run git: {reason}"
  | .failed call reason => "git " ++ " ".intercalate call ++ s!" failed: {reason}"

namespace Git

/-- The call that asks for the current branch. -/
def branchCall : List String := ["symbolic-ref", "--short", "-q", "HEAD"]

/-- The call that asks for the files of the project. -/
def filesCall : List String := ["ls-files", "-z", "--cached", "--others", "--exclude-standard"]

/-- Whether a text is blank. -/
def isBlankText (s : String) : Bool := Text.allBlank s.toList

/-- Why a call did not run. -/
def timeoutReason (call : List String) : String :=
  "Command '" ++ Text.quotedList ("git" :: call) ++ "' timed out after 30 seconds"

/-- Why a call failed: its error text, or its code. -/
def failureReason (code : Int) (stderr : String) : String :=
  let reason := Text.trimmed stderr
  if reason.isEmpty then s!"exit code {code}" else reason

/-- The name of the current branch. -/
def currentBranch : GitOutcome → Except GitFault String
  | .missing => .error (.notRun "git not found")
  | .timeout => .error (.notRun (timeoutReason branchCall))
  | .finished code stdout stderr =>
    if code = 1 && isBlankText stderr then .error .detached
    else if code ≠ 0 then .error (.failed branchCall (failureReason code stderr))
    else if isBlankText stdout then .error .detached
    else .ok (Text.trimmed stdout)

/-- The paths in an output that separates them by null characters: in order, each one once. -/
def listedPaths (stdout : String) : List String :=
  Text.sortedDistinct (((Text.splitOn '\x00' stdout.toList).filter (· ≠ [])).map String.ofList)

/-- The files of the project. -/
def trackedFiles : GitOutcome → Except GitFault (List String)
  | .missing => .error (.notRun "git not found")
  | .timeout => .error (.notRun (timeoutReason filesCall))
  | .finished code stdout stderr =>
    if code ≠ 0 then .error (.failed filesCall (failureReason code stderr))
    else .ok (listedPaths stdout)

/-- The notes about a call that gave a fault. -/
def faultLog (call : List String) (o : GitOutcome) : GitFault → List LogLine
  | .detached => []
  | .notRun reason => [⟨.debug, .git, "git " ++ " ".intercalate call ++ s!" failed: {reason}"⟩]
  | .failed call _ =>
    match o with
    | .finished code _ stderr =>
      [⟨.debug, .git,
        "git " ++ " ".intercalate call ++ s!" exited with {code}: {Text.trimmed stderr}"⟩]
    | _ => []

end Git

end Conventions
