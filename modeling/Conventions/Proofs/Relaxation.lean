import Mathlib.Data.List.Basic
import Conventions.Proofs.Branch
import Conventions.Proofs.Commit
import Conventions.Proofs.NodeSuffix
import Conventions.Proofs.Place
import Conventions.Proofs.Report
import Conventions.Proofs.Walk

/-!
# Settings that ask for less

Settings relax to others that allow more types, exempt more branches, know more suffixes, switch demands off or
allowances on, and leave all places as they are. A check that finds nothing under the first settings finds nothing under
the second ones, so the default rules never report more under these.
-/

namespace Conventions

variable {s t : Settings} {set set' : RuleSet} {params params' : Category → Params}

/-- Whether other settings ask for less: they have the same mapping of places in some order, and all that is allowed
under the first ones is allowed under them. -/
structure Settings.RelaxesTo (s t : Settings) : Prop where
  placement : t.placement.Perm s.placement
  commitTypes : s.commitTypes ⊆ t.commitTypes
  exemptBranches : s.exemptBranches ⊆ t.exemptBranches
  suffixes : s.suffixes.map Prod.fst ⊆ t.suffixes.map Prod.fst
  requireSpace : t.requireSpace.isTrue = true → s.requireSpace.isTrue = true
  allowBreaking : s.allowBreaking.isTrue = true → t.allowBreaking.isTrue = true
  ignoreMerges : s.ignoreMerges.isTrue = true → t.ignoreMerges.isTrue = true

/-! ## The rules that report -/

theorem RuleSet.map_ruleId_findings (rs : List Rule) (q : Request) :
    (findings rs q).map Diagnostic.ruleId = (rs.filter fun r => (r.evaluate q).isSome).map Rule.id := by
  induction rs with
  | nil => rfl
  | cons r rs ih =>
      rw [findings] at ih ⊢
      cases hr : r.evaluate q with
      | none => simp [hr, ih]
      | some d => simp [hr, ih, Rule.ruleId_of_evaluate hr]

/-- Whether a default rule reports on a request under parameters. -/
def RuleDraft.reports (d : RuleDraft) (params : Category → Params) (q : Request) : Bool :=
  ((d.rule params).evaluate q).isSome && (d.rule params).serves q

namespace RuleSet

theorem ruleIds_validate_default (h : set.rules = rulesWith params) (q : Request) :
    (set.validate q).ruleIds = (defaultDrafts.filter fun d => d.reports params q).map RuleDraft.id := by
  rw [Verdict.ruleIds, diagnostics_validate, map_ruleId_findings, applicable, h, rulesWith, List.filter_filter,
    List.filter_map, List.map_map]
  rfl

/-- Default rules do not report more under other parameters if every check that found nothing still finds nothing. -/
theorem ruleIds_sublist_of_run (h : set.rules = rulesWith params) (h' : set'.rules = rulesWith params') {q : Request}
    (hrun : ∀ m : Matcher, m.run q (params m.category) = .ok none → m.run q (params' m.category) = .ok none) :
    (set'.validate q).ruleIds.Sublist (set.validate q).ruleIds := by
  rw [ruleIds_validate_default h, ruleIds_validate_default h']
  refine (List.monotone_filter_right _ fun d hd => ?_).map _
  obtain ⟨hfound, hserves⟩ := (Bool.and_eq_true _ _).mp hd
  refine (Bool.and_eq_true _ _).mpr ⟨?_, (d.serves_rule q).2 ((d.serves_rule q).1 hserves)⟩
  rw [Option.isSome_iff_ne_none, ne_eq, d.evaluate_rule_eq_none_iff] at hfound ⊢
  exact fun hnone => hfound (hrun d.matcher hnone)

end RuleSet

/-! ## Checks of commit messages -/

namespace Commit

/-- A header that is checked under settings that ask for less is checked under the others as well. -/
theorem header?_of_relaxesTo (h : s.RelaxesTo t) {m : String} {x : Header}
    (hx : header? m t.commitParams = some x) : header? m s.commitParams = some x := by
  have hskipped : ¬IsSkipped t m := fun hskipped => by rw [header?_of_isSkipped hskipped] at hx; cases hx
  rw [header?_of_not_isSkipped hskipped] at hx
  rw [← hx]
  exact header?_of_not_isSkipped fun hs => hskipped ⟨h.ignoreMerges hs.1, hs.2⟩

theorem separated?_of_relaxesTo (h : s.RelaxesTo t) {m : String} {x : Header}
    (hx : separated? m t.commitParams = some x) : separated? m s.commitParams = some x := by
  rw [separated?, Option.filter_eq_some_iff] at hx ⊢
  exact ⟨header?_of_relaxesTo h hx.1, hx.2⟩

theorem checkSeparator_of_relaxesTo (h : s.RelaxesTo t) {m : String}
    (hnone : checkSeparator m s.commitParams = none) : checkSeparator m t.commitParams = none := by
  rw [checkSeparator, Option.bind_eq_none_iff] at hnone ⊢
  rintro ⟨left, right⟩ hx
  have hseparator : separatorMismatch ⟨left, right⟩ s.requireSpace.isTrue = none :=
    hnone _ (header?_of_relaxesTo h hx)
  cases right with
  | none => cases hseparator
  | some right =>
      rw [separatorMismatch_eq_none_iff] at hseparator
      exact separatorMismatch_eq_none_iff.2 fun hspace => hseparator (h.requireSpace hspace)

theorem checkType_eq_ok_none_iff {m : String} : checkType m s.commitParams = .ok none ↔
    ∀ x, separated? m s.commitParams = some x → Value.text (String.ofList x.typeToken) ∈ s.commitTypes := by
  cases hx : separated? m s.commitParams with
  | none => simp [checkType, hx]
  | some x =>
      have htype : checkType m s.commitParams = typeMismatch x s.commitTypes := by
        rw [checkType, hx]
        rfl
      rw [htype, typeMismatch_eq_ok_none_iff]
      simp

theorem checkType_of_relaxesTo (h : s.RelaxesTo t) {m : String} (hnone : checkType m s.commitParams = .ok none) :
    checkType m t.commitParams = .ok none := by
  rw [checkType_eq_ok_none_iff] at hnone ⊢
  exact fun x hx => h.commitTypes (hnone x (separated?_of_relaxesTo h hx))

/-- What a check without parameters of its own finds in headers with a colon depends on which of them are checked. -/
theorem bind_separated?_of_relaxesTo (h : s.RelaxesTo t) {m : String} {f : Header → Option Mismatch}
    (hnone : (separated? m s.commitParams).bind f = none) : (separated? m t.commitParams).bind f = none := by
  rw [Option.bind_eq_none_iff] at hnone ⊢
  exact fun x hx => hnone x (separated?_of_relaxesTo h hx)

theorem checkHeading_of_relaxesTo (h : s.RelaxesTo t) {m : String} (hnone : checkHeading m s.commitParams = none) :
    checkHeading m t.commitParams = none := by
  rw [checkHeading, Option.bind_eq_none_iff] at hnone ⊢
  intro x hx
  obtain ⟨p, hp, hmark⟩ := headingMismatch_eq_none_iff.1 (hnone x (separated?_of_relaxesTo h hx))
  exact headingMismatch_eq_none_iff.2 ⟨p, hp, fun hbreaking => h.allowBreaking (hmark hbreaking)⟩

end Commit

/-! ## Checks of node names -/

namespace NodeSuffix

/-- Under settings that are accepted, the keys of their suffix table decide on the names of nodes. -/
theorem check_suffixParams_eq_ok_none_iff (hset : defaultRuleSet s = .ok set) {name : String} {kind : IdentifierKind} :
    check name kind s.suffixParams = .ok none ↔
      (kind = .nodeName → ∃ k, Scalar.text k ∈ s.suffixes.map Prod.fst ∧ Ends k name.toList) := by
  obtain ⟨schema, _, hrules⟩ := rules_of_defaultRuleSet hset
  obtain ⟨d, hd, hmatcher⟩ := exists_draft .nodeSuffix
  have hrule : d.rule (s.params schema) ∈ set.rules := hrules ▸ List.mem_map_of_mem hd
  have hcategory : (d.rule (s.params schema)).category = .nodeSuffix := congrArg Matcher.category hmatcher
  have hparams : (d.rule (s.params schema)).params = s.suffixParams := congrArg (s.params schema) hcategory
  -- The rule is sound, so the keys are suffixes, and none of them has a length that the split does not try.
  obtain ⟨suffixes, htable, hsuffixes⟩ := exists_isTableOf (set.sound _ hrule) hcategory
  rw [hparams] at htable
  obtain ⟨found, hfound, hnone⟩ := exists_check htable (fun k hk => length_mem_of_isSuffix (hsuffixes k hk)) name kind
  obtain ⟨entries, hentries, hkeys⟩ := htable
  obtain rfl : s.suffixes = entries := Value.map.inj (Param.value.inj hentries)
  rw [hfound, Except.ok.injEq, hnone, hkeys]
  simp

theorem check_of_relaxesTo (h : s.RelaxesTo t) (hs : defaultRuleSet s = .ok set) (ht : defaultRuleSet t = .ok set')
    {name : String} {kind : IdentifierKind} (hnone : check name kind s.suffixParams = .ok none) :
    check name kind t.suffixParams = .ok none := by
  rw [check_suffixParams_eq_ok_none_iff hs] at hnone
  rw [check_suffixParams_eq_ok_none_iff ht]
  intro hkind
  obtain ⟨k, hk, hends⟩ := hnone hkind
  exact ⟨k, h.suffixes hk, hends⟩

end NodeSuffix

/-! ## Checks of places -/

/-- Mappings with the same entries in whatever order give schemas with the same walks. -/
theorem Schema.walk_eq_of_perm {m n : List (String × Value)} {a b : Schema} (ha : ofMapping m = .ok a)
    (hb : ofMapping n = .ok b) (h : n.Perm m) (segments : List String) : b.walk segments = a.walk segments := by
  obtain ⟨hm, rfl⟩ := ofMapping_eq_ok_iff.1 ha
  obtain ⟨hn, rfl⟩ := ofMapping_eq_ok_iff.1 hb
  have hfollows := follows_walk_declareAll (fun e he => (hn e he).1) segments
  rw [funext (declared_perm h), resolve_perm h] at hfollows
  exact hfollows.unique (follows_walk_declareAll (fun e he => (hm e he).1) segments)

/-! ## All checks -/

namespace Matcher

variable {schema schema' : Schema} {m : Matcher}

theorem run_branch_of_relaxesTo (h : s.RelaxesTo t) {name : String}
    (hnone : m.run (.branch name) (s.params schema m.category) = .ok none) :
    m.run (.branch name) (t.params schema' m.category) = .ok none := by
  cases m with
  | branchIssueNumber =>
      exact Branch.checkIssueNumber_eq_ok_none_iff.2
        ((Branch.checkIssueNumber_eq_ok_none_iff.1 hnone).imp_left fun hmem => h.exemptBranches hmem)
  | branchTitle =>
      exact Branch.checkTitle_eq_ok_none_iff.2
        ((Branch.checkTitle_eq_ok_none_iff.1 hnone).imp_left fun hmem => h.exemptBranches hmem)
  | _ => rfl

theorem run_commit_of_relaxesTo (h : s.RelaxesTo t) {message : String}
    (hnone : m.run (.commit message) (s.params schema m.category) = .ok none) :
    m.run (.commit message) (t.params schema' m.category) = .ok none := by
  cases m with
  | commitSeparator => exact congrArg Except.ok (Commit.checkSeparator_of_relaxesTo h (Except.ok.inj hnone))
  | commitType => exact Commit.checkType_of_relaxesTo h hnone
  | commitScope => exact congrArg Except.ok (Commit.bind_separated?_of_relaxesTo h (Except.ok.inj hnone))
  | commitHeader => exact congrArg Except.ok (Commit.checkHeading_of_relaxesTo h (Except.ok.inj hnone))
  | commitDescription => exact congrArg Except.ok (Commit.bind_separated?_of_relaxesTo h (Except.ok.inj hnone))
  | _ => rfl

theorem run_identifier_of_relaxesTo (h : s.RelaxesTo t) (hs : defaultRuleSet s = .ok set)
    (ht : defaultRuleSet t = .ok set') {name : String} {kind : IdentifierKind}
    (hnone : m.run (.identifier name kind) (s.params schema m.category) = .ok none) :
    m.run (.identifier name kind) (t.params schema' m.category) = .ok none := by
  cases m with
  | identifierCasing => exact hnone
  | nodeSuffix => exact NodeSuffix.check_of_relaxesTo h hs ht hnone
  | _ => rfl

theorem run_path_of_walk_eq (hwalk : ∀ ss, schema'.walk ss = schema.walk ss) {segments : List String}
    {kind : Option ArtifactKind} (hnone : m.run (.path segments kind) (s.params schema m.category) = .ok none) :
    m.run (.path segments kind) (t.params schema' m.category) = .ok none := by
  cases m with
  | placementRoot =>
      refine congrArg Except.ok (Place.rootMismatch_eq_none_iff.2 ?_)
      rw [hwalk]
      exact Place.rootMismatch_eq_none_iff.1 (Except.ok.inj hnone)
  | placementKind =>
      refine congrArg Except.ok (Place.kindMismatch_eq_none_iff.2 ?_)
      rw [hwalk]
      exact Place.kindMismatch_eq_none_iff.1 (Except.ok.inj hnone)
  | placementExtension => exact hnone
  | _ => rfl

end Matcher

/-- Under settings that ask for less the default rules report, in order, some of the rules that they report under the
others, and no other ones. -/
theorem ruleIds_sublist_of_relaxesTo (h : s.RelaxesTo t) (hs : defaultRuleSet s = .ok set)
    (ht : defaultRuleSet t = .ok set') (q : Request) : (set'.validate q).ruleIds.Sublist (set.validate q).ruleIds := by
  obtain ⟨schema, hschema, hrules⟩ := rules_of_defaultRuleSet hs
  obtain ⟨schema', hschema', hrules'⟩ := rules_of_defaultRuleSet ht
  refine RuleSet.ruleIds_sublist_of_run hrules hrules' fun m hnone => ?_
  cases q with
  | branch name => exact Matcher.run_branch_of_relaxesTo h hnone
  | commit message => exact Matcher.run_commit_of_relaxesTo h hnone
  | identifier name kind => exact Matcher.run_identifier_of_relaxesTo h hs ht hnone
  | path segments kind =>
      exact Matcher.run_path_of_walk_eq (Schema.walk_eq_of_perm hschema hschema' h.placement) hnone

/-- The default settings with one more type, exempt branch and suffix, and no space after the colon. -/
def Settings.lenient : Settings :=
  { Settings.default with
    commitTypes := .text "perf" :: Settings.default.commitTypes
    exemptBranches := .text "release" :: Settings.default.exemptBranches
    suffixes := (.text "VFX", .text "Node2D") :: Settings.default.suffixes
    requireSpace := .bool false }

theorem relaxesTo_lenient : Settings.default.RelaxesTo .lenient where
  placement := .refl _
  commitTypes := List.subset_cons_self _ _
  exemptBranches := List.subset_cons_self _ _
  suffixes := List.subset_cons_self _ _
  requireSpace := nofun
  allowBreaking := id
  ignoreMerges := id

/-- A message without a description whose type is one of the lenient settings only. -/
theorem ruleIds_sublist_lenient : ∃ set, defaultRuleSet .lenient = .ok set ∧
    (RuleSet.default.validate (.commit "perf:")).ruleIds = ["Commit.UnknownType", "Commit.MissingDescription"] ∧
    (set.validate (.commit "perf:")).ruleIds = ["Commit.MissingDescription"] ∧
    (set.validate (.commit "perf:")).ruleIds.Sublist (RuleSet.default.validate (.commit "perf:")).ruleIds := by
  have hkeys : ∀ e ∈ Settings.lenient.suffixes, Rule.isSuffix e.1.plain = true := by decide +kernel
  obtain ⟨set, hset⟩ := exists_defaultRuleSet (s := .lenient) ofMapping_defaultPlacement hkeys
  refine ⟨set, hset, ?default, ?lenient, ruleIds_sublist_of_relaxesTo relaxesTo_lenient defaultRuleSet_default hset _⟩
  case default =>
    rw [RuleSet.ruleIds_validate_default rfl]
    decide +kernel
  case lenient =>
    obtain ⟨schema, hschema, hrules⟩ := rules_of_defaultRuleSet hset
    obtain rfl : defaultSchema = schema := Except.ok.inj (ofMapping_defaultPlacement.symm.trans hschema)
    rw [RuleSet.ruleIds_validate_default hrules]
    decide +kernel

end Conventions
