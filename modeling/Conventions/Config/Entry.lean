import Conventions.Config.Sections

/-!
# Rule entries

The list of rules in a configuration changes rules by their identifiers and adds new ones. An entry for
a default rule may change its severity, its texts and its parameters and may switch it off, but
not the check; an entry for a new rule names its check and its message, and starts from the parameters
that the default rules of the same category share.
-/

namespace Conventions

/-- The keys that a rule entry may have. -/
def entryKeys : List String :=
  ["id", "matcher", "severity", "enabled", "message", "description", "params"]

/-- A rule entry: the fields that it gives. -/
structure RuleEntry where
  id : String
  matcher : Option Value
  severity : Option Severity
  enabled : Option Bool
  message : Option String
  description : Option String
  params : Option Value

namespace RuleEntry

/-- What messages about an entry begin with. -/
def contextOf (id : String) : String := s!"rule '{id}'"

/-- What messages about an entry begin with. -/
def context (e : RuleEntry) : String := contextOf e.id

/-- Refuses keys that no entry has. -/
def checkKeys (id : String) (fields : Section) : Except ConfigFault Unit :=
  let extra := (fields.map Prod.fst).filter fun k => !entryKeys.any fun n => k == .text n
  if extra.isEmpty then .ok ()
  else if (Value.firstIncomparable (extra.map .scalar)).isSome then .error .incomparableKeys
  else .error (.unknownKeys (contextOf id) (extra.mergeSort fun a b => a.compare? b ≠ some .gt))

/-- Reads the severity of an entry. -/
def readSeverity (id : String) (v : Value) : Except ConfigFault Severity :=
  match Severity.read v.plain with
  | .ok s => .ok s
  | .error f => .error (.severity (contextOf id) f)

/-- Reads a field of an entry if it is given. -/
def readField {α : Type} (fields : Section) (key : String) (read : Value → Except ConfigFault α) :
    Except ConfigFault (Option α) :=
  match Value.field? fields key with
  | none => .ok none
  | some v => (read v).map some

/-- The identifier of an entry: a text that is not blank. -/
def idOf? (fields : Section) : Option String :=
  match Value.field? fields "id" with
  | some (.scalar (.text id)) => if Rule.isId id then some id else none
  | _ => none

/-- Reads the entry at an index. -/
def read (index : Nat) : Value → Except ConfigFault RuleEntry
  | .map fields =>
    match idOf? fields with
    | none => .error (.entryNoId index)
    | some id => do
      checkKeys id fields
      let severity ← readField fields "severity" (readSeverity id)
      let enabled ← readField fields "enabled" (Value.readBool (contextOf id ++ ": enabled"))
      let text := fun key => (Value.field? fields key).map Value.plain
      return { id, severity, enabled
               matcher := Value.field? fields "matcher"
               message := text "message"
               description := text "description"
               params := Value.field? fields "params" }
  | _ => .error (.entryNoMapping index)

/-- The parameters whose value is a list of texts. -/
def listParams : List String := ["types", "exempt"]

/-- Reads a parameter of an entry. -/
def readParam (context : String) (key : Scalar) (v : Value) : Except ConfigFault Param :=
  match key, v with
  | .text "schema", .map es => do
    let mapping ← Settings.readPlacement (fun _ => context ++ " params.schema") es
    match Schema.ofMapping mapping with
    | .ok s => return .schema s
    | .error f => throw (.schema f)
  | .text name, v =>
    if listParams.contains name then
      (v.readTexts (context ++ " params." ++ name)).map fun ts => .value (.list (ts.map .text))
    else .ok (.value v)
  | _, v => .ok (.value v)

/-- The parameters with those of an entry on top. -/
def mergeParams (context : String) (current : Params) : Option Value → Except ConfigFault Params
  | none | some (.scalar .null) => .ok current
  | some (.map es) =>
    es.foldlM (fun ps e => do return Entries.set e.1.plain (← readParam context e.1 e.2) ps) current
  | some _ => .error (.paramsNoMapping context)

/-- A rule with the fields that an entry gives, and new parameters. -/
def applyTo (e : RuleEntry) (r : Rule) (params : Params) : Rule :=
  { r with
    severity := e.severity.getD r.severity
    enabled := e.enabled.getD r.enabled
    message := e.message.getD r.message
    description := e.description.getD r.description
    params := params }

/-- Changes an existing rule. -/
def change (e : RuleEntry) (r : Rule) : Except ConfigFault Rule := do
  if e.matcher.any fun m => !m.isText r.matcher then throw (.matcherChanged e.context)
  return e.applyTo r (← mergeParams e.context r.params e.params)

/-- The check that an entry names. -/
def matcher? (e : RuleEntry) : Option Matcher :=
  match e.matcher with
  | some (.scalar (.text n)) => Matcher.ofName? n
  | _ => none

/-- Makes the rule of an entry, given the shared parameters of each category. -/
def create (e : RuleEntry) (base : Category → Params) : Except ConfigFault Rule :=
  match e.matcher?, e.message with
  | none, _ => .error (.matcherMissing e.context)
  | some _, none => .error (.messageMissing e.context)
  | some m, some message =>
    (mergeParams e.context (base m.category) e.params).map fun params =>
      { id := e.id, category := m.category, matcher := m.name, message
        severity := e.severity.getD .error
        description := e.description.getD ""
        params
        enabled := e.enabled.getD true }

/-- The rules with the rule of an identifier changed. -/
def changeIn (e : RuleEntry) : List Rule → Except ConfigFault (List Rule)
  | [] => .ok []
  | r :: rs => if r.id = e.id then (e.change r).map (· :: rs) else (changeIn e rs).map (r :: ·)

end RuleEntry

/-- The rules of a configuration while its entries are read: the default ones, and the new ones. -/
structure RuleDrafts where
  defaults : List Rule
  added : List Rule

namespace RuleDrafts

/-- Reads one more entry. -/
def readEntry (base : Category → Params) (d : RuleDrafts) (entry : Value × Nat) :
    Except ConfigFault RuleDrafts := do
  let e ← RuleEntry.read entry.2 entry.1
  if d.defaults.any fun r => r.id == e.id then
    return { d with defaults := ← e.changeIn d.defaults }
  else
    return { d with added := d.added ++ [← e.create base] }

/-- Reads the list of entries. -/
def readEntries (base : Category → Params) (defaults : List Rule) :
    Option Value → Except ConfigFault (List Rule)
  | none | some (.scalar .null) => .ok defaults
  | some (.list vs) =>
    (vs.zipIdx.foldlM (readEntry base) ⟨defaults, []⟩).map fun d => d.defaults ++ d.added
  | some _ => .error .rulesNoList

end RuleDrafts

end Conventions
