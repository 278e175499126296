import Conventions.Config
import Conventions.Disk
import Conventions.Log
import Conventions.Yaml.Document

/-!
# Configuration files

A configuration is read from a YAML file: the one that is given, or the first of three names that is found
in the project. Without a file the defaults apply. What is wrong with a file is reported with its name;
a file that is not text, and a scalar without a value, stop the program.
-/

namespace Conventions

/-- Why a configuration file gives no configuration. -/
inductive LoadFault where
  | unreadable (name : String) (fault : DiskFault) (path : String)
  | undecodable
  | invalidYaml (name : String)
  | unreadableScalar (fault : Yaml.Fault)
  | invalid (name : String) (fault : ConfigFault)
deriving Repr

namespace LoadFault

/-- The message about a configuration file. -/
def message : LoadFault → String
  | .unreadable name f path => s!"{name}: cannot read file: {f.message}: {Text.quoted path}"
  | .undecodable => "not valid text"
  | .invalidYaml name => s!"{name}: invalid YAML"
  | .unreadableScalar (.value m) => m
  | .unreadableScalar _ => "scalar without a value"
  | .invalid name (.rules f) => s!"{name}: invalid rule set: {f.message}"
  | .invalid name f => s!"{name}: {f.message}"

/-- Whether a fault stops the program instead of being reported. -/
def isInternal : LoadFault → Bool
  | .undecodable | .unreadableScalar _ => true
  | .invalid _ f => f.isInternal
  | _ => false

end LoadFault

namespace Config

/-- The names of configuration files, in the order in which they are looked for. -/
def fileNames : List String := [".convcheck.yml", ".convcheck.yaml", "convcheck.yml"]

/-- Reads the text of a configuration file. -/
def ofText (path : Path) (text : String) : Except LoadFault Config :=
  match Yaml.load text with
  | .error .invalid => .error (.invalidYaml path.name)
  | .error f => .error (.unreadableScalar f)
  | .ok v =>
    match Config.read v with
    | .error f => .error (.invalid path.name f)
    | .ok (set, ignore) => .ok ⟨set, ignore, some path.text⟩

/-- Reads a configuration file. -/
def load (disk : Disk) (path : Path) : Except LoadFault Config :=
  match disk.read path with
  | .error f => .error (.unreadable path.name f path.text)
  | .ok none => .error .undecodable
  | .ok (some text) => ofText path text

/-- The configuration file of a project. -/
def find? (disk : Disk) (root : Path) : Option Path := (fileNames.map root.child).find? disk.isFile

/-- The configuration of a project: from a given file, from the file of the project, or the default one. -/
def resolve (disk : Disk) (root : Path) (explicit : Option Path) : Except LoadFault Config :=
  match explicit.or (find? disk root) with
  | some path => load disk path
  | none => .ok .default

/-- The note about the configuration of a project. -/
def resolveLog (root : Path) (c : Config) : List LogLine :=
  match c.source with
  | some path => [⟨.debug, .config, s!"Loaded {c.ruleSet.rules.length} rule(s) from {path}"⟩]
  | none => [⟨.debug, .config, s!"No configuration found in {root.text}, using defaults"⟩]

end Config

end Conventions
