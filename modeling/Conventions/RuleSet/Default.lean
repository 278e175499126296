import Conventions.RuleSet

/-!
# Default rules

The twelve rules that apply unless a configuration says otherwise, built from settings that several
of them share.
-/

namespace Conventions

/-- The suffixes of node names and the types that they stand for. -/
def defaultSuffixes : List (String × String) :=
  [("BTN", "Button"), ("LBL", "Label"), ("SPR", "Sprite2D"), ("ANIM", "AnimationPlayer"),
   ("COL", "CollisionShape2D"), ("AREA", "Area2D"), ("BODY", "CharacterBody2D"),
   ("CAM", "Camera2D"), ("TMR", "Timer"), ("PNL", "Panel"), ("CTR", "Container"),
   ("TEX", "TextureRect"), ("SFX", "AudioStreamPlayer"), ("RAY", "RayCast2D"), ("MAP", "TileMap"),
   ("PRT", "GPUParticles2D"), ("LE", "LineEdit"), ("PB", "ProgressBar")]

/-- The directories of a project and the kinds of files that they accept. -/
def defaultPlacement : List (String × List ArtifactKind) :=
  [("entities", [.script, .scene, .resource]),
   ("entities/*", [.script, .scene, .resource]),
   ("entities/*/sprites", [.texture]),
   ("entities/player", [.script, .scene]),
   ("entities/player/sprites", [.texture]),
   ("levels", [.scene, .script, .resource]),
   ("levels/tilesets", [.resource, .texture]),
   ("menus", [.scene, .script]),
   ("menus/ui", [.scene, .script, .resource]),
   ("menus/ui/theme_default", [.resource]),
   ("menus/ui/theme_default/assets", [.texture]),
   ("menus/ui/theme_default/fonts", [.font]),
   ("autoloads", [.script]),
   ("assets", [.texture, .font, .resource]),
   ("assets/fonts", [.font])]

/-- A mapping from directories to kinds as configuration values. -/
def placementValues (m : List (String × List ArtifactKind)) : List (String × Value) :=
  m.map fun e => (e.1, .list (e.2.map fun k => .text k.word))

/-- What several default rules share. -/
structure Settings where
  commitTypes : List Value
  requireSpace : Value
  allowBreaking : Value
  ignoreMerges : Value
  exemptBranches : List Value
  suffixes : List (Scalar × Value)
  placement : List (String × Value)
deriving Repr

/-- The settings that apply unless a configuration says otherwise. -/
def Settings.default : Settings where
  commitTypes := Commit.defaultTypes.map .text
  requireSpace := .bool true
  allowBreaking := .bool true
  ignoreMerges := .bool true
  exemptBranches := Branch.defaultExempt.map .text
  suffixes := defaultSuffixes.map fun e => (.text e.1, .text e.2)
  placement := placementValues defaultPlacement

namespace Settings

/-- The parameters of the rules about branch names. -/
def branchParams (s : Settings) : Params := [("exempt", .value (.list s.exemptBranches))]

/-- The parameters of the rules about commit messages. -/
def commitParams (s : Settings) : Params :=
  [("types", .value (.list s.commitTypes)), ("require_space", .value s.requireSpace),
   ("allow_breaking", .value s.allowBreaking), ("ignore_merges", .value s.ignoreMerges)]

/-- The parameters of the rule about suffixes of node names. -/
def suffixParams (s : Settings) : Params := [("suffixes", .value (.map s.suffixes))]

/-- The parameters of the rules of a category, given the compiled schema. -/
def params (s : Settings) (schema : Schema) : Category → Params
  | .branchName => s.branchParams
  | .commitMessage => s.commitParams
  | .identifierCasing => []
  | .nodeSuffix => s.suffixParams
  | .directoryPlacement => [("schema", .schema schema)]

end Settings

/-- A default rule without parameters. -/
structure RuleDraft where
  id : String
  matcher : Matcher
  message : String
  description : String
  severity : Severity := .error

/-- The default rule about the colon of a commit header. -/
def separatorDraft : RuleDraft where
  id := "Commit.MissingSeparator"
  matcher := .commitSeparator
  message := "Commit header '\x7bvalue\x7d': \x7bdetail\x7d; expected \x7bexpected\x7d"
  description := "Commit headers separate the type from the description with ': '."

/-- The default rules without parameters, in the order in which they report. -/
def defaultDrafts : List RuleDraft :=
  [{ id := "BranchName.MissingIssueNumber"
     matcher := .branchIssueNumber
     message := "Branch '\x7bvalue\x7d' has no issue number: expected \x7bexpected\x7d"
     description := "Branch names start with the issue number they address." },
   { id := "BranchName.InvalidTitleCasing"
     matcher := .branchTitle
     message :=
       "Branch '\x7bvalue\x7d' title is not kebab-case (\x7bdetail\x7d): expected \x7bexpected\x7d"
     description := "Branch titles are lowercase words separated by single hyphens." },
   separatorDraft,
   { id := "Commit.UnknownType"
     matcher := .commitType
     message := "Unknown commit type '\x7bvalue\x7d': expected one of \x7bexpected\x7d"
     description := "Commit types come from a fixed, case-sensitive list." },
   { id := "Commit.EmptyScope"
     matcher := .commitScope
     message := "Commit prefix '\x7bvalue\x7d' has an empty scope: expected \x7bexpected\x7d"
     description := "A scope, when present, is not empty." },
   { id := "Commit.MalformedHeader"
     matcher := .commitHeader
     message :=
       "Commit prefix '\x7bvalue\x7d' is malformed (\x7bdetail\x7d): expected \x7bexpected\x7d"
     description := "The prefix before ':' is a type with an optional scope." },
   { id := "Commit.MissingDescription"
     matcher := .commitDescription
     message := "Commit header '\x7bvalue\x7d' has no description: expected \x7bexpected\x7d"
     description := "Every commit header carries a description." },
   { id := "Identifier.CasingMismatch"
     matcher := .identifierCasing
     message := "Identifier '\x7bvalue\x7d' should be \x7bexpected\x7d (\x7bdetail\x7d)"
     description := "Identifiers use the casing class of their declared kind." },
   { id := "NodeName.UnknownSuffix"
     matcher := .nodeSuffix
     message := "Node name '\x7bvalue\x7d': \x7bdetail\x7d; expected \x7bexpected\x7d"
     description := "Node names end with an uppercase type suffix from the suffix table." },
   { id := "Path.UnknownRoot"
     matcher := .placementRoot
     message := "'\x7bvalue\x7d': \x7bdetail\x7d; expected \x7bexpected\x7d"
     description := "Files live under one of the known top-level directories." },
   { id := "Path.KindNotAllowedHere"
     matcher := .placementKind
     message := "'\x7bvalue\x7d': \x7bdetail\x7d (\x7bexpected\x7d)"
     description := "Each directory accepts only certain kinds of files." },
   { id := "Path.UnrecognizedKind"
     matcher := .placementExtension
     message := "'\x7bvalue\x7d': \x7bdetail\x7d"
     severity := .warning
     description := "Files have an extension that maps to a known artifact kind." }]

/-- The rule of a draft with the parameters of its category. -/
def RuleDraft.rule (d : RuleDraft) (params : Category → Params) : Rule where
  id := d.id
  category := d.matcher.category
  matcher := d.matcher.name
  message := d.message
  severity := d.severity
  description := d.description
  params := params d.matcher.category
  enabled := true

/-- The default rules with the given parameters of each category. -/
def rulesWith (params : Category → Params) : List Rule := defaultDrafts.map fun d => d.rule params

/-- The default rules under settings. -/
def defaultRules (s : Settings) : Except SchemaFault (List Rule) :=
  (Schema.ofMapping s.placement).map fun schema => rulesWith (s.params schema)

theorem map_id_rulesWith (params : Category → Params) :
    (rulesWith params).map Rule.id = defaultDrafts.map RuleDraft.id := by
  simp [rulesWith, RuleDraft.rule, Function.comp_def]

theorem defaultDrafts_ids_nodup : (defaultDrafts.map RuleDraft.id).Nodup := by decide +kernel

/-- Whether a template uses known fields only. -/
def isKnownTemplate (template : String) : Bool :=
  match Template.fieldNames template with
  | .ok names => (names.filter fun n => !Rule.templateFields.contains n).isEmpty
  | .error _ => false

theorem isKnownTemplate_message : ∀ d ∈ defaultDrafts, isKnownTemplate d.message = true := by
  decide +kernel

theorem templateFault?_eq_none {r : Rule} (h : isKnownTemplate r.message = true) :
    r.templateFault? = none := by
  unfold isKnownTemplate at h
  unfold Rule.templateFault?
  split at h
  · rename_i names hn
    simp only [hn, h, if_true]
  · cases h

/-- A default rule is sound if its parameters are. -/
theorem fault?_rule {d : RuleDraft} (hd : d ∈ defaultDrafts) {params : Category → Params}
    (h : (d.rule params).paramsFault? = none) : (d.rule params).fault? = none := by
  have hm : (d.rule params).matcherFault? = none := by
    simp [Rule.matcherFault?, RuleDraft.rule, Matcher.ofName?_name]
  have ht : (d.rule params).templateFault? = none :=
    templateFault?_eq_none (isKnownTemplate_message d hd)
  simp [Rule.fault?, hm, ht, h]

/-- The schema of the default placement. -/
def defaultSchema : Schema :=
  ((Schema.ofMapping (placementValues defaultPlacement)).toOption).getD .empty

theorem ofMapping_defaultPlacement :
    Schema.ofMapping (placementValues defaultPlacement) = .ok defaultSchema := by
  have h : ((Schema.ofMapping (placementValues defaultPlacement)).toOption).isSome = true := by
    decide +kernel
  unfold defaultSchema
  cases hs : Schema.ofMapping (placementValues defaultPlacement) with
  | ok s => rfl
  | error f => simp [hs, Except.toOption] at h

/-- The parameters of the default rules under the default settings. -/
def defaultParams : Category → Params := Settings.default.params defaultSchema

theorem paramsFault?_default (d : RuleDraft) : (d.rule defaultParams).paramsFault? = none := by
  have hs : ∀ e ∈ defaultSuffixes, Rule.isSuffix e.1 = true := by decide +kernel
  have hf : ((defaultSuffixes.map fun e => (Scalar.text e.1).plain).find? fun s =>
      !Rule.isSuffix s) = none := by
    rw [List.find?_eq_none]
    intro s h
    obtain ⟨e, he, rfl⟩ := List.mem_map.1 h
    simp [Scalar.plain, hs e he]
  have hsuffix (r : Rule) (h : r.params = Settings.default.suffixParams) : r.suffixFault? = none := by
    simp only [Rule.suffixFault?, h, Settings.suffixParams, Params.suffixTable, Params.valueOr, Entries.get?, if_true,
      Option.getD_some, Settings.default, List.map_map, Function.comp_def, hf, Option.map_none]
  obtain ⟨id, m, message, description, severity⟩ := d
  cases m with
  | nodeSuffix =>
      exact hsuffix (RuleDraft.rule ⟨id, .nodeSuffix, message, description, severity⟩ defaultParams) rfl
  | _ => rfl

/-- The rule set of the default rules under the default settings. -/
def RuleSet.default : RuleSet where
  rules := rulesWith defaultParams
  distinct := by
    rw [map_id_rulesWith]
    exact defaultDrafts_ids_nodup
  sound := by
    intro r hr
    obtain ⟨d, hd, rfl⟩ := List.mem_map.1 hr
    exact fault?_rule hd (paramsFault?_default d)

/-- Why no rules come from settings. -/
inductive SettingsFault where
  | rules (f : RuleFault)
  | notIterable (kind : String)
deriving Repr

/-- The fault of a schema within a set of rules. -/
def SettingsFault.ofSchema : SchemaFault → SettingsFault
  | .notIterable kind => .notIterable kind
  | f => .rules (.placement f)

/-- The rule set of the default rules under settings. -/
def defaultRuleSet (s : Settings) : Except SettingsFault RuleSet :=
  match defaultRules s with
  | .error f => .error (.ofSchema f)
  | .ok rs =>
    match RuleSet.ofRules rs with
    | .error f => .error (.rules f)
    | .ok set => .ok set

end Conventions
