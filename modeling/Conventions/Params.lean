import Conventions.Schema

/-!
# Parameters of rules

A rule hands parameters to its check: configuration values, and for the rules about places a compiled
schema.
-/

namespace Conventions

/-- A parameter. -/
inductive Param where
  | value (v : Value)
  | schema (s : Schema)
deriving Repr, Inhabited

/-- The parameters of a rule by name. -/
abbrev Params := List (String × Param)

namespace Params

/-- The schema among the parameters. -/
def schema? (ps : Params) : Option Schema :=
  match Entries.get? "schema" ps with
  | some (.schema s) => some s
  | _ => none

/-- A parameter, or a value if it is not given. -/
def valueOr (ps : Params) (name : String) (v : Value) : Param := (Entries.get? name ps).getD (.value v)

/-- Whether a parameter counts as true; a schema does, and one that is not given. -/
def isOn (ps : Params) (name : String) : Bool :=
  match Entries.get? name ps with
  | some (.value v) => v.isTrue
  | _ => true

/-- A parameter, or a list of texts if it is not given. -/
def listOr (ps : Params) (name : String) (texts : List String) : Param :=
  ps.valueOr name (.list (texts.map .text))

/-- The suffix table among parameters; one that is not given is empty. -/
def suffixTable (ps : Params) : Param := ps.valueOr "suffixes" (.map [])

end Params

end Conventions
