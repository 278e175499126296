import Conventions.RuleSet.Default

/-!
# Faults of configurations

What can be wrong with the values of a configuration. Most faults have a message; two of them come from
values that cannot be looked up or put in order and stop the program.
-/

namespace Conventions

/-- Why a configuration value is not accepted. -/
inductive ConfigFault where
  | noMapping
  | unsupportedVersion (version : String)
  | unhashableVersion
  | invalidExtends (extends_ : String)
  | sectionNoMapping (key : String)
  | noTextList (context : String)
  | noBool (context : String)
  | noTypes
  | suffixesForm
  | placementForm
  | rulesNoList
  | entryNoMapping (index : Nat)
  | entryNoId (index : Nat)
  | unknownKeys (context : String) (keys : List Scalar)
  | incomparableKeys
  | severity (context : String) (fault : InvalidSeverity)
  | matcherChanged (context : String)
  | matcherMissing (context : String)
  | messageMissing (context : String)
  | paramsNoMapping (context : String)
  | schema (fault : SchemaFault)
  | rules (fault : RuleFault)
deriving Repr

namespace ConfigFault

/-- The message about a configuration value. -/
def message : ConfigFault → String
  | .noMapping => "configuration must be a YAML mapping"
  | .unsupportedVersion v => s!"unsupported version {v}, expected one of [1]"
  | .unhashableVersion => "unhashable version"
  | .invalidExtends e => s!"invalid extends '{e}', must be one of ['default', 'none']"
  | .sectionNoMapping key => s!"'{key}' must be a mapping"
  | .noTextList c => s!"{c} must be a list of strings"
  | .noBool c => s!"{c} must be true or false"
  | .noTypes => "commit.types must not be empty"
  | .suffixesForm => "'suffixes' must be a mapping of suffix to node type or a list"
  | .placementForm => "placement.schema must be a non-empty mapping of path to kinds"
  | .rulesNoList => "'rules' must be a list"
  | .entryNoMapping i => s!"rule at index {i} must be a mapping"
  | .entryNoId i => s!"rule at index {i} missing required 'id' field"
  | .unknownKeys c ks => c ++ ": unknown keys [" ++ ", ".intercalate (ks.map Scalar.quoted) ++ "]"
  | .incomparableKeys => "unknown keys have no order"
  | .severity c f => s!"{c}: {f.message}"
  | .matcherChanged c => s!"{c}: cannot change the matcher of an existing rule"
  | .matcherMissing c =>
    s!"{c}: new rules need a 'matcher', one of {Text.quotedList Matcher.sortedNames}"
  | .messageMissing c => s!"{c}: new rules need a 'message' template"
  | .paramsNoMapping c => s!"{c}: 'params' must be a mapping"
  | .schema f => f.message
  | .rules f => f.message

/-- Whether a fault stops the program instead of being reported. -/
def isInternal : ConfigFault → Bool
  | .unhashableVersion | .incomparableKeys => true
  | .schema (.notIterable _) => true
  | _ => false

end ConfigFault

end Conventions
