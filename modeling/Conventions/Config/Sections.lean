import Conventions.Config.Fault

/-!
# Sections of a configuration

The sections on commits, branches, suffixes and placement change the settings of the default rules, and
the section on placement says which files are ignored. A section that is not given changes nothing.
-/

namespace Conventions

/-- The entries of a mapping in a configuration. -/
abbrev Section := List (Scalar × Value)

namespace Section

/-- The section under a key; one that is not given or empty has no entries. -/
def under (data : Section) (key : String) : Except ConfigFault Section :=
  match Value.field? data key with
  | none | some (.scalar .null) => .ok []
  | some (.map es) => .ok es
  | some _ => .error (.sectionNoMapping key)

end Section

namespace Value

/-- Whether a value may stand in a list of texts: it is a text, an integer or a truth value. -/
def isTextual : Value → Bool
  | .scalar (.text _) | .scalar (.int _) | .scalar (.bool _) => true
  | _ => false

/-- Reads a list of texts; a single text is a list of one. -/
def readTexts (context : String) : Value → Except ConfigFault (List String)
  | .scalar (.text s) => .ok [s]
  | .list vs => if vs.all isTextual then .ok (vs.map plain) else .error (.noTextList context)
  | _ => .error (.noTextList context)

/-- Reads a truth value. -/
def readBool (context : String) : Value → Except ConfigFault Bool
  | .scalar (.bool b) => .ok b
  | _ => .error (.noBool context)

end Value

/-- The globs of the files that are ignored unless a configuration says otherwise. -/
def defaultIgnore : List String :=
  [".*", "*/.*", "*.md", "*.import", "*.godot", "*.cfg", "LICENSE*", "addons/*"]

namespace Settings

/-- Reads the types of commits. -/
def readCommitTypes (commit : Section) (s : Settings) : Except ConfigFault Settings :=
  match Value.field? commit "types" with
  | none => .ok s
  | some v => do
    match ← v.readTexts "commit.types" with
    | [] => throw .noTypes
    | ts => return { s with commitTypes := ts.map .text }

/-- Reads a switch of the section on commits. -/
def readSwitch (commit : Section) (key : String) (old : Value) : Except ConfigFault Value :=
  match Value.field? commit key with
  | none => .ok old
  | some v => (v.readBool ("commit." ++ key)).map .bool

/-- Reads the section on commits. -/
def readCommit (data : Section) (s : Settings) : Except ConfigFault Settings := do
  let commit ← data.under "commit"
  let s ← readCommitTypes commit s
  let space ← readSwitch commit "require_space" s.requireSpace
  let breaking ← readSwitch commit "allow_breaking" s.allowBreaking
  let merges ← readSwitch commit "ignore_merges" s.ignoreMerges
  return { s with requireSpace := space, allowBreaking := breaking, ignoreMerges := merges }

/-- Reads the section on branches. -/
def readBranch (data : Section) (s : Settings) : Except ConfigFault Settings := do
  let branch ← data.under "branch"
  match Value.field? branch "exempt" with
  | none => return s
  | some v => return { s with exemptBranches := (← v.readTexts "branch.exempt").map .text }

/-- The suffix table of a value: of a list each item stands for itself. -/
def suffixTable? : Value → Option (List (String × String))
  | .list vs => some (Entries.overlay [] (vs.map fun v => (v.plain, v.plain)))
  | .map es => some (Entries.overlay [] (es.map fun e => (e.1.plain, e.2.plain)))
  | _ => none

/-- Whether the suffixes of a configuration come on top of the default ones. -/
def extendsSuffixes (data : Section) : Bool :=
  (Value.field? data "extend_suffixes").any Value.isTrue

/-- Reads the suffix table. -/
def readSuffixes (data : Section) (s : Settings) : Except ConfigFault Settings :=
  match Value.field? data "suffixes" with
  | none | some (.scalar .null) => .ok s
  | some v =>
    match suffixTable? v with
    | none => .error .suffixesForm
    | some table =>
      let base := if extendsSuffixes data then defaultSuffixes else []
      .ok { s with
        suffixes := (Entries.overlay base table).map fun e => (Scalar.text e.1, Value.text e.2) }

/-- Reads a mapping from directories to lists of kinds. -/
def readPlacement (context : String → String) (es : Section) :
    Except ConfigFault (List (String × Value)) := do
  let read ← es.mapM fun e => do
    return (e.1.plain, Value.list ((← e.2.readTexts (context e.1.plain)).map .text))
  return Entries.overlay [] read

/-- Reads the schema of the section on placement. -/
def readSchema (placement : Section) (s : Settings) : Except ConfigFault Settings :=
  match Value.field? placement "schema" with
  | none => .ok s
  | some (.map (e :: es)) => do
    let context := fun path => s!"placement.schema['{path}']"
    return { s with placement := ← readPlacement context (e :: es) }
  | some _ => .error .placementForm

/-- Reads the globs of ignored files. -/
def readIgnore (placement : Section) : Except ConfigFault (List String) :=
  match Value.field? placement "ignore" with
  | none => .ok defaultIgnore
  | some v => v.readTexts "placement.ignore"

/-- Reads the sections of a configuration: the settings, and the globs of ignored files. -/
def read (data : Section) : Except ConfigFault (Settings × List String) := do
  let s ← readCommit data .default
  let s ← readBranch data s
  let s ← readSuffixes data s
  let placement ← data.under "placement"
  let s ← readSchema placement s
  return (s, ← readIgnore placement)

end Settings

end Conventions
