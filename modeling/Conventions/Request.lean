import Conventions.Category
import Conventions.Artifact
import Conventions.Identifier

/-!
# Requests

A request asks whether one thing keeps to the conventions: the name of a branch, a commit message, a
declared identifier or the place of a file. A request is served by the rules of its categories.
-/

namespace Conventions

/-- One thing to check. -/
inductive Request where
  | branch (name : String)
  | commit (message : String)
  | identifier (name : String) (kind : IdentifierKind)
  | path (segments : List String) (kind : Option ArtifactKind)
deriving DecidableEq, Repr

namespace Request

/-- The request for a path given as text. -/
def ofPath (path : String) (kind : Option ArtifactKind) : Request := .path (Path.segments path) kind

/-- The categories of the rules that serve a request. -/
def categories : Request → List Category
  | .branch _ => [.branchName]
  | .commit _ => [.commitMessage]
  | .identifier _ _ => [.identifierCasing, .nodeSuffix]
  | .path _ _ => [.directoryPlacement]

/-- The name of the form of a request, as the log shows it. -/
def formName : Request → String
  | .branch _ => "BranchNameRequest"
  | .commit _ => "CommitMessageRequest"
  | .identifier _ _ => "IdentifierRequest"
  | .path _ _ => "PathRequest"

end Request

/-- The segments of a path as one text. -/
def displayPath (segments : List String) : String := "/".intercalate segments

end Conventions
