import Conventions.Source.Script
import Conventions.Source.Scene
import Conventions.Path

/-!
# Source files

The extension of a file tells whether it is a script or a scene; other files declare nothing.
-/

namespace Conventions.Source

/-- The extensions of scripts. -/
def scriptExtension : String := ".gd"

/-- The extension of scenes. -/
def sceneExtension : String := ".tscn"

/-- Whether a file may declare identifiers. -/
def isSource (path : String) : Bool :=
  let ext := (Path.parse path).lowerSuffix
  ext = scriptExtension || ext = sceneExtension

/-- The identifiers that a file declares. -/
def declarations (path text : String) : List Declaration :=
  let ext := (Path.parse path).lowerSuffix
  if ext = scriptExtension then Script.declarations text
  else if ext = sceneExtension then Scene.declarations text
  else []

end Conventions.Source
