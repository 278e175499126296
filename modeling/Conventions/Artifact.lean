import Conventions.Text.Blank
import Conventions.Text.Split
import Conventions.Path

/-!
# Artifacts

The kinds of files of a game project, the file extensions that tell them, and sets of kinds. A set is
the list of its members in alphabetical order of their words, so that equal sets are equal lists.
-/

namespace Conventions

/-- The kind of a file. -/
inductive ArtifactKind where
  | font
  | resource
  | scene
  | script
  | texture
deriving DecidableEq, Repr, Inhabited

namespace ArtifactKind

/-- Every kind, in alphabetical order. -/
def all : List ArtifactKind := [.font, .resource, .scene, .script, .texture]

/-- The word for a kind. -/
def word : ArtifactKind → String
  | .font => "font"
  | .resource => "resource"
  | .scene => "scene"
  | .script => "script"
  | .texture => "texture"

/-- The kind of a word. -/
def ofWord? (w : String) : Option ArtifactKind := all.find? fun k => k.word == w

/-- The kind that a text names, in any case and with blanks around it. -/
def ofText? (s : String) : Option ArtifactKind :=
  ofWord? (String.ofList (Text.lower (Text.trim s.toList)))

/-- The kind that a file extension tells, the point included. -/
def ofExtension? (ext : String) : Option ArtifactKind :=
  if ext ∈ [".gd", ".cs"] then some .script
  else if ext ∈ [".tscn", ".scn"] then some .scene
  else if ext ∈ [".tres", ".res"] then some .resource
  else if ext ∈ [".png", ".jpg", ".jpeg", ".svg", ".webp"] then some .texture
  else if ext ∈ [".ttf", ".otf", ".woff", ".woff2"] then some .font
  else none

/-- The kind of a file name by its extension, in any case. -/
def ofFileName? (name : String) : Option ArtifactKind :=
  ofExtension? (Path.parse name).lowerSuffix

/-- The kind of a path by the extension of its last segment. -/
def infer? (segments : List String) : Option ArtifactKind :=
  segments.getLast?.bind ofFileName?

end ArtifactKind

/-- A set of artifact kinds: its members in alphabetical order. -/
structure KindSet where
  members : List ArtifactKind
deriving DecidableEq, Repr, Inhabited

namespace KindSet

/-- The set without members. -/
def empty : KindSet := ⟨[]⟩

/-- The set of the kinds in a list. -/
def ofList (ks : List ArtifactKind) : KindSet := ⟨ArtifactKind.all.filter fun k => ks.contains k⟩

/-- Whether a kind is a member. -/
def contains (s : KindSet) (k : ArtifactKind) : Bool := s.members.contains k

/-- The kinds that are in one of two sets. -/
def union (s t : KindSet) : KindSet := ofList (s.members ++ t.members)

/-- The words of the members, in alphabetical order. -/
def words (s : KindSet) : List String := s.members.map ArtifactKind.word

end KindSet

end Conventions
