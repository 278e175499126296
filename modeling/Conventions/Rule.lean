import Conventions.Matcher
import Conventions.Template.Render

/-!
# Rules

A rule carries out a check on the requests of its category and fills its message template with what
the check reports. A rule is sound if its check exists and belongs to its category, its template uses
only known fields, and its parameters have the form that the check needs.
-/

namespace Conventions

/-- A rule. -/
structure Rule where
  id : String
  category : Category
  matcher : String
  message : String
  severity : Severity
  description : String
  params : Params
  enabled : Bool
deriving Repr

/-- Why a set of rules cannot be built or changed. -/
inductive RuleFault where
  | duplicateId (id : String)
  | unknownMatcher (id matcher : String)
  | wrongCategory (id matcher : String) (actual expected : Category)
  | malformedTemplate (id : String) (fault : Template.FieldFault)
  | unknownFields (id : String) (fields : List String)
  | suffixesNoMapping (id : String)
  | invalidSuffix (id suffix : String)
  | noSchema (id : String)
  | unknownIds (ids : List String)
  | placement (fault : SchemaFault)
deriving Repr

namespace Rule

/-- The fields that a message template may use, in alphabetical order. -/
def templateFields : List String := ["detail", "expected", "rule_id", "value"]

/-- The shortest and the longest suffix of a node name. -/
def suffixBounds : Nat × Nat := (2, 4)

end Rule

/-- The message about a set of rules. -/
def RuleFault.message : RuleFault → String
  | .duplicateId id => s!"Duplicate rule id '{id}'"
  | .unknownMatcher id m =>
    s!"Rule '{id}': unknown matcher '{m}', must be one of {Text.quotedList Matcher.sortedNames}"
  | .wrongCategory id m actual expected =>
    s!"Rule '{id}': matcher '{m}' checks {actual.word}, not {expected.word}"
  | .malformedTemplate id f => s!"Rule '{id}': malformed message template: {f.message}"
  | .unknownFields id fields =>
    s!"Rule '{id}': message template uses unknown fields {Text.quotedList fields}, "
      ++ s!"must be among {Text.quotedList Rule.templateFields}"
  | .suffixesNoMapping id => s!"Rule '{id}': 'suffixes' must be a mapping of suffix to node type"
  | .invalidSuffix id suffix =>
    s!"Rule '{id}': invalid suffix '{suffix}', expected 2-4 uppercase letters"
  | .noSchema id => s!"Rule '{id}': placement rules need a compiled 'schema' parameter"
  | .unknownIds ids => "Overrides reference unknown rule ids: " ++ ", ".intercalate ids
  | .placement f => f.message

namespace Rule

/-- Whether a text can be the identifier of a rule: it is not blank. -/
def isId (id : String) : Bool := !Text.allBlank id.toList

/-- What is wrong with the check of a rule. -/
def matcherFault? (r : Rule) : Option RuleFault :=
  match Matcher.ofName? r.matcher with
  | none => some (.unknownMatcher r.id r.matcher)
  | some m => if m.category = r.category then none
    else some (.wrongCategory r.id r.matcher m.category r.category)

/-- What is wrong with the template of a rule. -/
def templateFault? (r : Rule) : Option RuleFault :=
  match Template.fieldNames r.message with
  | .error f => some (.malformedTemplate r.id f)
  | .ok names =>
    let unknown := names.filter fun n => !templateFields.contains n
    if unknown.isEmpty then none else some (.unknownFields r.id (Text.sortedDistinct unknown))

/-- Whether a text can be a suffix: two to four upper-case letters of ASCII. -/
def isSuffix (s : String) : Bool :=
  suffixBounds.1 ≤ s.length && s.length ≤ suffixBounds.2 && s.toList.all Char.isUpper

/-- What is wrong with the suffix table of a rule. -/
def suffixFault? (r : Rule) : Option RuleFault :=
  match r.params.suffixTable with
  | .value (.map entries) =>
    ((entries.map fun e => e.1.plain).find? fun s => !isSuffix s).map (.invalidSuffix r.id)
  | _ => some (.suffixesNoMapping r.id)

/-- What is wrong with the parameters of a rule. -/
def paramsFault? (r : Rule) : Option RuleFault :=
  match r.category with
  | .nodeSuffix => r.suffixFault?
  | .directoryPlacement => if r.params.schema?.isSome then none else some (.noSchema r.id)
  | _ => none

/-- The first thing that is wrong with a rule. -/
def fault? (r : Rule) : Option RuleFault :=
  r.matcherFault?.or (r.templateFault?.or r.paramsFault?)

/-- The value of a template field for a mismatch. -/
def fieldValue (r : Rule) (m : Mismatch) (field : String) : Option String :=
  if field = "value" then some m.value
  else if field = "expected" then some m.expected
  else if field = "detail" then some m.detail
  else if field = "rule_id" then some r.id
  else none

/-- The message of a rule about a mismatch. -/
def render (r : Rule) (m : Mismatch) : Except RenderFailure String :=
  Template.render (r.fieldValue m) r.message

/-- What is wrong with a rule does not depend on its severity or on whether it is enabled. -/
theorem fault?_graded (r : Rule) (s : Severity) (b : Bool) :
    fault? { r with severity := s, enabled := b } = r.fault? := rfl

end Rule

end Conventions
