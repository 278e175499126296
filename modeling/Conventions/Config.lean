import Conventions.Config.Entry

/-!
# Configurations

A configuration is a rule set and the globs of the files to ignore. It is read from a mapping with a
version, the word `extends` that keeps or drops the default rules, sections with settings, and a list of
rule entries.
-/

namespace Conventions

/-- A configuration, with the path of the file that it comes from. -/
structure Config where
  ruleSet : RuleSet
  ignore : List String
  source : Option String

namespace Config

/-- Whether a value is the supported version. -/
def checkVersion : Value → Except ConfigFault Unit
  | .scalar s => if s.same (.int 1) then .ok () else .error (.unsupportedVersion s.plain)
  | _ => .error .unhashableVersion

/-- Reads whether the default rules are kept. -/
def readExtends (data : Section) : Except ConfigFault Bool :=
  match ((Value.field? data "extends").map Value.plain).getD "default" with
  | "default" => .ok true
  | "none" => .ok false
  | e => .error (.invalidExtends e)

/-- The entries of a configuration value; nothing counts as an empty mapping. -/
def sectionOf : Value → Except ConfigFault Section
  | .scalar .null => .ok []
  | .map es => .ok es
  | _ => .error .noMapping

/-- Reads the rules of a configuration under its settings. -/
def readRules (data : Section) (keepDefaults : Bool) (s : Settings) :
    Except ConfigFault (List Rule) :=
  match Schema.ofMapping s.placement with
  | .error f => .error (.rules (.placement f))
  | .ok schema =>
    let base := s.params schema
    RuleDrafts.readEntries base (if keepDefaults then rulesWith base else [])
      (Value.field? data "rules")

/-- Reads a configuration: the rule set, and the globs of ignored files. -/
def read (v : Value) : Except ConfigFault (RuleSet × List String) := do
  let data ← sectionOf v
  checkVersion ((Value.field? data "version").getD (.scalar (.int 1)))
  let keepDefaults ← readExtends data
  let (settings, ignore) ← Settings.read data
  let rules ← readRules data keepDefaults settings
  match RuleSet.ofRules rules with
  | .ok set => return (set, ignore)
  | .error f => throw (.rules f)

/-- The configuration that applies if there is none. -/
def default : Config := ⟨.default, defaultIgnore, none⟩

end Config

end Conventions
