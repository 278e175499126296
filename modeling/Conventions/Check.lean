import Conventions.Disk
import Conventions.Git
import Conventions.Glob
import Conventions.Report
import Conventions.Source

/-!
# Checks

What is checked becomes a list of items: a branch name, a commit message, identifiers, the places of files
that are not ignored, and the identifiers that the sources of a project declare. A project check puts
places first and identifiers after them, both in the order of the list of files.
-/

namespace Conventions

namespace Config

/-- Checks a branch name. -/
def branchItem (name : String) : CheckItem := (⟨"branch", name, none, none⟩, .branch name)

/-- Checks a commit message; the file that it comes from may be given. -/
def commitItem (message : String) (source : Option String) : CheckItem :=
  (⟨"commit", String.ofList (Text.before '\n' message.toList), source, none⟩, .commit message)

/-- Checks an identifier. -/
def identifierItem (kind : IdentifierKind) (name : String) : CheckItem :=
  (⟨"identifier", name, none, none⟩, .identifier name kind)

/-- Checks the place of a file. -/
def pathItem (kind : Option ArtifactKind) (path : String) : CheckItem :=
  (⟨"path", path, some path, none⟩, .ofPath path kind)

/-- Whether a file is ignored. -/
def ignores (c : Config) (path : String) : Bool := Glob.ignores c.ignore path

/-- The items for the places of files, and the number of files that are ignored. -/
def pathItems (c : Config) (kind : Option ArtifactKind) (applyIgnore : Bool) (paths : List String) :
    List CheckItem × Nat :=
  let (ignored, kept) := (paths.map Path.toSlashes).partition fun p => applyIgnore && c.ignores p
  (kept.map (pathItem kind), ignored.length)

/-- The item for an identifier that a file declares. -/
def declarationItem (file : String) (d : Declaration) : CheckItem :=
  (⟨"identifier", d.name, some file, some d.line⟩, .identifier d.name d.kind)

/-- The sources among files that are not ignored. -/
def sources (c : Config) (files : List String) : List String :=
  files.filter fun f => Source.isSource f && !c.ignores f

/-- The text of a source in a project. -/
def sourceText? (disk : Disk) (root : Path) (file : String) : Option String :=
  disk.readText? (root.join (Path.parse file))

/-- The items for the identifiers that the sources of a project declare. -/
def sourceItems (c : Config) (disk : Disk) (root : Path) (files : List String) : List CheckItem :=
  (c.sources files).flatMap fun f =>
    match sourceText? disk root f with
    | some text => (Source.declarations f text).map (declarationItem f)
    | none => []

/-- The notes about sources that cannot be read. -/
def sourceLog (c : Config) (disk : Disk) (root : Path) (files : List String) : List LogLine :=
  ((c.sources files).filter fun f => (sourceText? disk root f).isNone).map fun f =>
    ⟨.warning, .check, s!"Cannot read file: {f}"⟩

/-- The items of a project check, and the number of files that are ignored. -/
def projectItems (c : Config) (disk : Disk) (root : Path) (files : List String)
    (identifiers : Bool) : List CheckItem × Nat :=
  let (items, skipped) := c.pathItems none true files
  (items ++ (if identifiers then c.sourceItems disk root files else []), skipped)

/-- Checks the files of a project. -/
def checkProject (c : Config) (disk : Disk) (root : Path) (files : List String)
    (identifiers : Bool) (workers : Option Int) : Except RuleSet.NoWorkers Report :=
  let (items, skipped) := c.projectItems disk root files identifiers
  c.run items skipped workers

/-- Checks the files of a project that git tells of. -/
def checkTracked (c : Config) (disk : Disk) (root : Path) (answer : GitOutcome) (identifiers : Bool)
    (workers : Option Int) : Except GitFault (Except RuleSet.NoWorkers Report) :=
  (Git.trackedFiles answer).map fun files => c.checkProject disk root files identifiers workers

/-- The notes about a project check, up to the validation of its items. -/
def projectLog (c : Config) (disk : Disk) (root : Path) (files : List String)
    (identifiers : Bool) : List LogLine :=
  let (items, skipped) := c.projectItems disk root files identifiers
  (if identifiers then c.sourceLog disk root files else [])
    ++ [⟨.debug, .check, s!"Checking {items.length} request(s), {skipped} file(s) ignored"⟩]

/-- The notes about the validation of items. -/
def runLog (c : Config) (items : List CheckItem) : List LogLine :=
  items.flatMap fun (_, q) => c.ruleSet.validationLog q

end Config

end Conventions
