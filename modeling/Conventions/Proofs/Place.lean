import Conventions.Proofs.DefaultRules
import Conventions.Proofs.Extension
import Conventions.Proofs.Walk

/-!
# Verdicts on places

The three rules about places share the work: one asks for a known top-level directory, one for a file whose kind
can be told, and one, silent where another one reports, for a kind that the directory accepts. The message of the
last one lists the kinds with which the same path would pass. What the extension of a file tells, and where a compiled
schema leads, is stated apart from the reader of paths and from the tree.
-/

namespace Conventions

/-! ## Words of kinds -/

namespace ArtifactKind

theorem word_inj {k l : ArtifactKind} : k.word = l.word ↔ k = l := by
  refine ⟨fun h => ?_, congrArg word⟩
  cases k <;> cases l <;> first | rfl | exact absurd h (by decide)

theorem comma_not_mem_word (k : ArtifactKind) : ',' ∉ k.word.toList := by cases k <;> decide

theorem slash_not_mem_word (k : ArtifactKind) : '/' ∉ k.word.toList := by cases k <;> decide

theorem word_ne_nothing (k : ArtifactKind) : k.word ≠ "nothing" := by cases k <;> decide

end ArtifactKind

namespace Place

/-! ## The list of kinds in a message -/

/-- The words of the kinds that a message says a directory accepts: they stand behind the last slash and the word
`accepts`, with a blank before each one and commas between them. -/
def acceptedWords (expected : String) : List String :=
  let list := ((Text.splitOn '/' expected.toList).getLastD []).drop " accepts".length
  (Text.splitOn ',' list).map fun w => String.ofList (w.drop 1)

theorem blank_cons_join (f : List Char) (fs : List (List Char)) :
    ' ' :: Text.join [',', ' '] (f :: fs) = Text.join [','] ((f :: fs).map (' ' :: ·)) := by
  induction fs generalizing f with
  | nil => rfl
  | cons g gs ih =>
      have hg := ih g
      simp only [List.map_cons] at hg
      simp [Text.join, ← hg]

theorem slash_not_mem_kindList (ks : KindSet) : '/' ∉ (kindList ks).toList := by
  unfold kindList
  split
  · decide
  · rw [Text.toList_intercalate_eq_join]
    intro h
    rcases Text.mem_of_mem_join h with hsep | ⟨f, hf, hslash⟩
    · exact absurd hsep (by decide)
    · obtain ⟨w, hw, rfl⟩ := List.mem_map.1 hf
      obtain ⟨k, _, rfl⟩ := List.mem_map.1 hw
      exact k.slash_not_mem_word hslash

theorem splitOn_blank_kindList (ks : KindSet) :
    Text.splitOn ',' (' ' :: (kindList ks).toList) =
      (if ks.members = [] then ["nothing"] else ks.words).map fun w => ' ' :: w.toList := by
  unfold kindList
  cases hks : ks.members with
  | nil =>
      simp only [List.isEmpty_nil, if_true]
      decide
  | cons k rest =>
      have hwords : ks.words = k.word :: rest.map ArtifactKind.word := by simp [KindSet.words, hks]
      have hsep : ", ".toList = [',', ' '] := rfl
      have hcomma : ∀ f ∈ (ks.words.map String.toList).map (' ' :: ·), ',' ∉ f := by
        intro f hf
        simp only [KindSet.words, List.map_map, List.mem_map, Function.comp] at hf
        obtain ⟨l, _, rfl⟩ := hf
        exact List.not_mem_cons_of_ne_of_not_mem (by decide) l.comma_not_mem_word
      rw [if_neg (by simp), if_neg (List.cons_ne_nil k rest), Text.toList_intercalate_eq_join, hsep]
      rw [hwords] at hcomma ⊢
      rw [List.map_cons, blank_cons_join, ← List.map_cons, Text.splitOn_join (by simp) hcomma,
        List.map_map]
      rfl

theorem acceptedWords_append (shown : String) (ks : KindSet) :
    acceptedWords (shown ++ "/ accepts " ++ kindList ks) =
      if ks.members = [] then ["nothing"] else ks.words := by
  have hexpected : (shown ++ "/ accepts " ++ kindList ks).toList =
      shown.toList ++ '/' :: (" accepts".toList ++ ' ' :: (kindList ks).toList) := by
    simp [String.toList_append]
  have hslash : '/' ∉ " accepts".toList ++ ' ' :: (kindList ks).toList := by
    rw [List.mem_append, List.mem_cons]
    rintro (h | h | h)
    · exact absurd h (by decide)
    · exact absurd h (by decide)
    · exact slash_not_mem_kindList ks h
  have hdrop : (" accepts".toList ++ ' ' :: (kindList ks).toList).drop " accepts".length =
      ' ' :: (kindList ks).toList := List.drop_left
  simp only [acceptedWords, hexpected, Text.splitOn_append_cons, Text.splitOn_of_not_mem hslash,
    List.getLastD_concat, hdrop, splitOn_blank_kindList, List.map_map]
  exact List.map_id'' (fun w => by simp) _

/-- The words in a message about a kind are the words of the kinds that the directory accepts. -/
theorem word_mem_acceptedWords_iff {shown : String} {ks : KindSet} {k : ArtifactKind} :
    k.word ∈ acceptedWords (shown ++ "/ accepts " ++ kindList ks) ↔ ks.contains k = true := by
  rw [acceptedWords_append]
  split
  · rename_i hks
    simp [KindSet.contains, hks, k.word_ne_nothing]
  · simp [KindSet.contains, KindSet.words, ArtifactKind.word_inj]

/-! ## What each check reports -/

variable {schema : Schema} {segments : List String} {kind : Option ArtifactKind}

theorem rootMismatch_eq_none_iff : rootMismatch schema segments = none ↔
    segments ≠ [] ∧ (schema.walk segments.dropLast).rootKnown = true := by
  cases segments with
  | nil => simp [rootMismatch]
  | cons first rest => simp [rootMismatch]

theorem kindMismatch_eq_none_iff : kindMismatch schema segments kind = none ↔
    (segments ≠ [] → (schema.walk segments.dropLast).rootKnown = true →
      ∀ k, effectiveKind segments kind = some k →
        (schema.walk segments.dropLast).allowed.contains k = true) := by
  cases segments with
  | nil => simp [kindMismatch]
  | cons first rest =>
      cases hkind : effectiveKind (first :: rest) kind with
      | none => simp [kindMismatch, hkind]
      | some k =>
          cases hroot : (schema.walk (first :: rest).dropLast).rootKnown <;>
            simp [kindMismatch, hkind, hroot]

/-- A misplaced file has a known root and a kind, and the message lists what its directory accepts. -/
theorem of_kindMismatch_eq_some {m : Mismatch} (h : kindMismatch schema segments kind = some m) :
    segments ≠ [] ∧ (schema.walk segments.dropLast).rootKnown = true ∧
      (effectiveKind segments kind).isSome = true ∧
      ∃ shown, m.expected = shown ++ "/ accepts " ++ kindList (schema.walk segments.dropLast).allowed := by
  unfold kindMismatch at h
  split at h
  · cases h
  · rename_i hne
    obtain ⟨k, hk, h⟩ := Option.bind_eq_some_iff.1 h
    simp only [Bool.or_eq_true, Bool.not_eq_true'] at h
    split at h
    · cases h
    · rename_i hplace
      cases h
      rw [not_or, Bool.not_eq_false] at hplace
      refine ⟨by simpa using hne, hplace.1, by rw [hk]; rfl, _, rfl⟩

theorem extensionMismatch_eq_none_iff : extensionMismatch segments kind = none ↔
    segments = [] ∨ (effectiveKind segments kind).isSome = true := by
  unfold extensionMismatch
  cases hlast : segments.getLast? with
  | none => simp [List.getLast?_eq_none_iff.1 hlast]
  | some name =>
      have hne : segments ≠ [] := by
        rintro rfl
        cases hlast
      simp [hne, Option.isSome_iff_ne_none]

/-- A path with a known root passes with the kinds that its directory accepts. -/
theorem kindMismatch_declared_eq_none_iff {k : ArtifactKind} (hne : segments ≠ [])
    (hroot : (schema.walk segments.dropLast).rootKnown = true) :
    kindMismatch schema segments (some k) = none ↔
      (schema.walk segments.dropLast).allowed.contains k = true := by
  simp [kindMismatch_eq_none_iff, hne, hroot, effectiveKind]

/-! ## The rules about places -/

/-- The default rules about places, without parameters. -/
def drafts : List RuleDraft := defaultDrafts.filter fun d => d.matcher.category = .directoryPlacement

/-- The parameters of the rules about places. -/
def params (schema : Schema) : Category → Params := fun _ => [("schema", .schema schema)]

/-- A default rule about places with a schema, in some grade. -/
def rule (schema : Schema) (grade : Severity) (d : RuleDraft) : Rule :=
  { d.rule (params schema) with severity := grade }

theorem matchers_drafts :
    drafts.map RuleDraft.matcher = [.placementRoot, .placementKind, .placementExtension] := by decide

end Place

/-- Whether the rules of a rule set about places are the default ones with a schema, all enabled, in whatever way
they are graded. -/
def RuleSet.ChecksPlaces (set : RuleSet) (schema : Schema) : Prop :=
  ∃ grade : RuleDraft → Severity, set.byCategory .directoryPlacement =
    Place.drafts.map fun d => Place.rule schema (grade d) d

namespace Place

variable {set : RuleSet} {ps : Category → Params}

theorem checksPlaces_of_rules (h : set.rules = rulesWith ps)
    (hps : ps .directoryPlacement = [("schema", .schema schema)]) : set.ChecksPlaces schema := by
  refine ⟨RuleDraft.severity, ?_⟩
  rw [RuleSet.byCategory, h, rulesWith, List.filter_map, drafts]
  refine List.map_congr_left ?_
  intro d hd
  have hcategory : d.matcher.category = .directoryPlacement := of_decide_eq_true (List.mem_filter.1 hd).2
  simp only [rule, RuleDraft.rule, params, hcategory, hps]

/-- The default rules under settings check places with the schema of the settings. -/
theorem exists_checksPlaces {s : Settings} (h : defaultRuleSet s = .ok set) :
    ∃ schema, Schema.ofMapping s.placement = .ok schema ∧ set.ChecksPlaces schema := by
  obtain ⟨schema, hschema, hrules⟩ := rules_of_defaultRuleSet h
  exact ⟨schema, hschema, checksPlaces_of_rules hrules rfl⟩

theorem enabled_rule (grade : Severity) (d : RuleDraft) : (rule schema grade d).enabled = true := rfl

theorem evaluate_rule_eq_none_iff (grade : Severity) (d : RuleDraft) (q : Request) :
    (rule schema grade d).evaluate q = none ↔ d.matcher.run q (params schema d.matcher.category) = .ok none := by
  rw [← d.runNamed_rule q]
  exact Rule.evaluate_eq_none_iff

theorem run_placementRoot (c : Category) :
    Matcher.run .placementRoot (.path segments kind) (params schema c) = .ok (rootMismatch schema segments) :=
  rfl

theorem run_placementKind (c : Category) :
    Matcher.run .placementKind (.path segments kind) (params schema c) =
      .ok (kindMismatch schema segments kind) := rfl

theorem run_placementExtension (c : Category) :
    Matcher.run .placementExtension (.path segments kind) (params schema c) =
      .ok (extensionMismatch segments kind) := rfl

/-! ## Verdicts -/

theorem serves_path_iff {r : Rule} :
    r.serves (.path segments kind) = true ↔ r.category = .directoryPlacement ∧ r.enabled = true := by
  simp [Rule.serves, Request.categories, and_comm]

theorem validate_path_eq_nil_iff (h : set.ChecksPlaces schema) :
    (set.validate (.path segments kind)).diagnostics = [] ↔ rootMismatch schema segments = none ∧
      kindMismatch schema segments kind = none ∧ extensionMismatch segments kind = none := by
  obtain ⟨grade, h⟩ := h
  have hserved : (∀ r ∈ set.rules, r.serves (.path segments kind) = true →
        r.evaluate (.path segments kind) = none) ↔
      ∀ r ∈ set.byCategory .directoryPlacement, r.enabled = true →
        r.evaluate (.path segments kind) = none := by
    simp only [RuleSet.byCategory, List.mem_filter, decide_eq_true_eq, serves_path_iff, and_imp]
  have hmatchers : (∀ d ∈ drafts, d.matcher.run (.path segments kind)
        (params schema d.matcher.category) = .ok none) ↔
      ∀ m ∈ drafts.map RuleDraft.matcher,
        m.run (.path segments kind) (params schema m.category) = .ok none := by
    rw [List.forall_mem_map]
  rw [set.validate_eq_nil_iff, hserved, h, List.forall_mem_map]
  simp only [enabled_rule, true_imp_iff, evaluate_rule_eq_none_iff]
  rw [hmatchers, matchers_drafts]
  simp only [List.forall_mem_cons, run_placementRoot, run_placementKind, run_placementExtension,
    Except.ok.injEq, List.not_mem_nil, false_imp_iff, implies_true, and_true]

/-- A rule about places reports what its check finds. -/
theorem reports_path_iff (h : set.ChecksPlaces schema) {id : String} {m : Matcher}
    (hm : (id, m) ∈ drafts.map fun d => (d.id, d.matcher)) :
    (set.validate (.path segments kind)).Reports id ↔
      m.run (.path segments kind) (params schema m.category) ≠ .ok none := by
  obtain ⟨grade, h⟩ := h
  obtain ⟨d, hd, hdm⟩ := List.mem_map.1 hm
  cases hdm
  have hmem : rule schema (grade d) d ∈ set.byCategory .directoryPlacement := h ▸ List.mem_map_of_mem hd
  obtain ⟨hrule, hcategory⟩ := List.mem_filter.1 hmem
  have hreports := set.reports_validate_iff (.path segments kind) hrule
  rw [serves_path_iff, ne_eq, evaluate_rule_eq_none_iff] at hreports
  exact hreports.trans (and_iff_right ⟨of_decide_eq_true hcategory, rfl⟩)

theorem reports_unknownRoot_iff (h : set.ChecksPlaces schema) :
    (set.validate (.path segments kind)).Reports "Path.UnknownRoot" ↔
      rootMismatch schema segments ≠ none := by
  rw [reports_path_iff h (m := .placementRoot) (by decide), run_placementRoot, ne_eq, Except.ok.injEq]

theorem reports_kindNotAllowedHere_iff (h : set.ChecksPlaces schema) :
    (set.validate (.path segments kind)).Reports "Path.KindNotAllowedHere" ↔
      kindMismatch schema segments kind ≠ none := by
  rw [reports_path_iff h (m := .placementKind) (by decide), run_placementKind, ne_eq, Except.ok.injEq]

theorem reports_unrecognizedKind_iff (h : set.ChecksPlaces schema) :
    (set.validate (.path segments kind)).Reports "Path.UnrecognizedKind" ↔
      extensionMismatch segments kind ≠ none := by
  rw [reports_path_iff h (m := .placementExtension) (by decide), run_placementExtension, ne_eq,
    Except.ok.injEq]

/-- The verdict of the default rules on a path. A path passes exactly if its top-level directory is known and its
directory accepts its kind. The first and the third rule report a path without a known root and a file whose kind
cannot be told; the second one is silent where another one reports, and where it reports, its message lists
exactly the kinds with which the same path would pass it. The kind that is not declared is the one that the extension of
the last segment tells, and a compiled schema leads where the flat meaning of its mapping leads. -/
theorem validate_path (h : set.ChecksPlaces schema) (segments : List String) (kind : Option ArtifactKind) :
    ((set.validate (.path segments kind)).diagnostics = [] ↔
        segments ≠ [] ∧ (schema.walk segments.dropLast).rootKnown = true ∧
          ∃ k, kind.or (ArtifactKind.infer? segments) = some k ∧
            (schema.walk segments.dropLast).allowed.contains k = true) ∧
      ((set.validate (.path segments kind)).Reports "Path.UnknownRoot" ↔
        segments = [] ∨ (schema.walk segments.dropLast).rootKnown = false) ∧
      ((set.validate (.path segments kind)).Reports "Path.UnrecognizedKind" ↔
        segments ≠ [] ∧ kind = none ∧ ArtifactKind.infer? segments = none) ∧
      ((set.validate (.path segments kind)).Reports "Path.KindNotAllowedHere" →
        ¬(set.validate (.path segments kind)).Reports "Path.UnknownRoot" ∧
        ¬(set.validate (.path segments kind)).Reports "Path.UnrecognizedKind" ∧
        ∃ m, kindMismatch schema segments kind = some m ∧
          ∀ k : ArtifactKind,
            ¬(set.validate (.path segments (some k))).Reports "Path.KindNotAllowedHere" ↔
              k.word ∈ acceptedWords m.expected) ∧
      (∀ k, ArtifactKind.infer? segments = some k ↔ k.IsToldBy segments) ∧
      ∀ m, Schema.ofMapping m = .ok schema →
        ((schema.walk segments.dropLast).rootKnown = true ↔ Schema.resolve m [] segments.dropLast ≠ []) ∧
          (schema.walk segments.dropLast).Follows (Schema.declared m) segments.dropLast
            (Schema.resolve m [] segments.dropLast) := by
  simp only [validate_path_eq_nil_iff h, reports_unknownRoot_iff h, reports_kindNotAllowedHere_iff h,
    reports_unrecognizedKind_iff h, ne_eq, not_not]
  refine ⟨?passes, ?root, ?extension, ?kind, fun k => ArtifactKind.infer?_eq_some_iff,
    fun m hm => Schema.walk_of_ofMapping hm segments.dropLast⟩
  case passes =>
    rw [rootMismatch_eq_none_iff, kindMismatch_eq_none_iff, extensionMismatch_eq_none_iff,
      Option.isSome_iff_exists]
    constructor
    · rintro ⟨⟨hne, hroot⟩, hallowed, hkind⟩
      obtain ⟨k, hk⟩ := hkind.resolve_left hne
      exact ⟨hne, hroot, k, hk, hallowed hne hroot k hk⟩
    · rintro ⟨hne, hroot, k, hk, hallowed⟩
      refine ⟨⟨hne, hroot⟩, fun _ _ l hl => ?_, Or.inr ⟨k, hk⟩⟩
      rw [effectiveKind, hk] at hl
      cases hl
      exact hallowed
  case root =>
    rw [rootMismatch_eq_none_iff, not_and_or, not_not, Bool.not_eq_true]
  case extension =>
    rw [extensionMismatch_eq_none_iff, not_or, Option.not_isSome_iff_eq_none, effectiveKind,
      Option.or_eq_none_iff]
  case kind =>
    intro hkind
    obtain ⟨m, hm⟩ := Option.ne_none_iff_exists'.1 hkind
    obtain ⟨hne, hroot, hsome, shown, hexpected⟩ := of_kindMismatch_eq_some hm
    refine ⟨rootMismatch_eq_none_iff.2 ⟨hne, hroot⟩, extensionMismatch_eq_none_iff.2 (Or.inr hsome),
      m, hm, fun k => ?_⟩
    rw [kindMismatch_declared_eq_none_iff hne hroot, hexpected, word_mem_acceptedWords_iff]

/-- The default rule set checks places with the default schema. -/
theorem checksPlaces_default : RuleSet.default.ChecksPlaces defaultSchema := by
  obtain ⟨schema, hschema, hchecks⟩ := exists_checksPlaces defaultRuleSet_default
  obtain rfl : defaultSchema = schema := Except.ok.inj (ofMapping_defaultPlacement.symm.trans hschema)
  exact hchecks

/-- A picture, told by its extension, has no place beside the levels; declared as a script it would pass, declared as a
font it would not. A note is of no kind. -/
theorem validate_path_misplaced :
    RuleSet.default.ChecksPlaces defaultSchema ∧
      ArtifactKind.texture.IsToldBy ["levels", "logo.png"] ∧
      ArtifactKind.infer? ["levels", "logo.png"] = some .texture ∧
      (RuleSet.default.validate (.path ["levels", "logo.png"] none)).Reports "Path.KindNotAllowedHere" ∧
      ¬(RuleSet.default.validate (.path ["levels", "logo.png"] (some .script))).Reports
        "Path.KindNotAllowedHere" ∧
      (RuleSet.default.validate (.path ["levels", "logo.png"] (some .font))).Reports
        "Path.KindNotAllowedHere" ∧
      (RuleSet.default.validate (.path ["levels", "notes.txt"] none)).Reports "Path.UnrecognizedKind" := by
  have h := checksPlaces_default
  have hmismatch : kindMismatch defaultSchema ["levels", "logo.png"] none =
      some ⟨"levels/logo.png", "levels/ accepts resource, scene, script", some ⟨0, 6⟩,
        "texture files are not allowed under 'levels'"⟩ := by
    decide +kernel
  have hreports : (RuleSet.default.validate (.path ["levels", "logo.png"] none)).Reports
      "Path.KindNotAllowedHere" := by
    rw [reports_kindNotAllowedHere_iff h, hmismatch]
    exact Option.some_ne_none _
  have htold : ArtifactKind.texture.IsToldBy ["levels", "logo.png"] :=
    ⟨"logo.png", rfl, "logo.png".toList, ".png".toList, .alone ⟨by decide, by decide, by decide⟩,
      ⟨"logo".toList, "png".toList, by decide⟩, by decide⟩
  obtain ⟨_, _, _, hkind, htells, _⟩ := validate_path h ["levels", "logo.png"] none
  obtain ⟨_, _, m, hm, hwords⟩ := hkind hreports
  rw [hmismatch, Option.some.injEq] at hm
  subst hm
  obtain ⟨_, _, hunknown, _⟩ := validate_path h ["levels", "notes.txt"] none
  refine ⟨h, htold, (htells .texture).2 htold, hreports, (hwords .script).2 (by decide), ?_,
    hunknown.2 ⟨by decide, rfl, by decide +kernel⟩⟩
  have hfont : ArtifactKind.font.word ∉ acceptedWords "levels/ accepts resource, scene, script" := by decide
  exact not_not.1 fun hn => hfont ((hwords .font).1 hn)

end Place

end Conventions
