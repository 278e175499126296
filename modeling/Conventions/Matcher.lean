import Conventions.Branch
import Conventions.Commit.Check
import Conventions.Casing
import Conventions.NodeSuffix
import Conventions.Place

/-!
# Matchers

A rule names the check that it carries out. Each of the twelve checks belongs to a category, and
reports nothing about a request of another form.
-/

namespace Conventions

/-- A check that a rule may carry out. -/
inductive Matcher where
  | branchIssueNumber
  | branchTitle
  | commitSeparator
  | commitType
  | commitScope
  | commitHeader
  | commitDescription
  | identifierCasing
  | nodeSuffix
  | placementRoot
  | placementKind
  | placementExtension
deriving DecidableEq, Repr

namespace Matcher

/-- Every check, in the order in which they are listed. -/
def all : List Matcher :=
  [.branchIssueNumber, .branchTitle, .commitSeparator, .commitType, .commitScope, .commitHeader,
   .commitDescription, .identifierCasing, .nodeSuffix, .placementRoot, .placementKind,
   .placementExtension]

/-- The name of a check in a configuration. -/
def name : Matcher → String
  | .branchIssueNumber => "branch_issue_number"
  | .branchTitle => "branch_title"
  | .commitSeparator => "commit_separator"
  | .commitType => "commit_type"
  | .commitScope => "commit_scope"
  | .commitHeader => "commit_header"
  | .commitDescription => "commit_description"
  | .identifierCasing => "identifier_casing"
  | .nodeSuffix => "node_suffix"
  | .placementRoot => "placement_root"
  | .placementKind => "placement_kind"
  | .placementExtension => "placement_extension"

/-- The category of a check. -/
def category : Matcher → Category
  | .branchIssueNumber | .branchTitle => .branchName
  | .commitSeparator | .commitType | .commitScope | .commitHeader | .commitDescription =>
    .commitMessage
  | .identifierCasing => .identifierCasing
  | .nodeSuffix => .nodeSuffix
  | .placementRoot | .placementKind | .placementExtension => .directoryPlacement

/-- The check of a name. -/
def ofName? (n : String) : Option Matcher := all.find? fun m => m.name == n

/-- The names of all checks in alphabetical order. -/
def sortedNames : List String := Text.sorted (all.map name)

/-- Carries out a check; a request of another form than the check is for gives nothing. -/
def run (m : Matcher) (r : Request) (ps : Params) : Except MatchFailure (Option Mismatch) :=
  match m, r with
  | .branchIssueNumber, .branch n => Branch.checkIssueNumber n ps
  | .branchTitle, .branch n => Branch.checkTitle n ps
  | .commitSeparator, .commit t => .ok (Commit.checkSeparator t ps)
  | .commitType, .commit t => Commit.checkType t ps
  | .commitScope, .commit t => .ok (Commit.checkScope t ps)
  | .commitHeader, .commit t => .ok (Commit.checkHeading t ps)
  | .commitDescription, .commit t => .ok (Commit.checkDescription t ps)
  | .identifierCasing, .identifier n k => .ok (Casing.check n k)
  | .nodeSuffix, .identifier n k => NodeSuffix.check n k ps
  | .placementRoot, .path ss _ => Place.checkRoot ss ps
  | .placementKind, .path ss k => Place.checkKind ss k ps
  | .placementExtension, .path ss k => .ok (Place.extensionMismatch ss k)
  | _, _ => .ok none

/-- Carries out the check of a name. -/
def runNamed (name : String) (r : Request) (ps : Params) : Except MatchFailure (Option Mismatch) :=
  match ofName? name with
  | some m => m.run r ps
  | none => .error (.unknownMatcher name)

theorem ofName?_name (m : Matcher) : ofName? m.name = some m := by cases m <;> decide

end Matcher

end Conventions
