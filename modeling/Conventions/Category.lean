/-!
# Categories of checks

A rule checks one kind of thing: branch names, commit messages, the casing of identifiers, the suffix
of node names, or where a file is placed.
-/

namespace Conventions

/-- What a rule checks. -/
inductive Category where
  | branchName
  | commitMessage
  | identifierCasing
  | nodeSuffix
  | directoryPlacement
deriving DecidableEq, Repr, Inhabited

namespace Category

/-- Every category. -/
def all : List Category :=
  [.branchName, .commitMessage, .identifierCasing, .nodeSuffix, .directoryPlacement]

/-- The word for a category. -/
def word : Category → String
  | .branchName => "branch_name"
  | .commitMessage => "commit_message"
  | .identifierCasing => "identifier_casing"
  | .nodeSuffix => "node_suffix"
  | .directoryPlacement => "directory_placement"

/-- The category of a word. -/
def ofWord? (w : String) : Option Category := all.find? fun c => c.word == w

theorem ofWord?_word (c : Category) : ofWord? c.word = some c := by cases c <;> decide

end Category

end Conventions
