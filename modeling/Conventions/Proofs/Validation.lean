import Conventions.Validation
import Conventions.Proofs.RuleSet

/-!
# Verdicts rule by rule

A verdict lists what the rules that serve a request report, in the order of the rules: the diagnostics of
distinct rules are in order already and none repeats another one, so aggregating them changes nothing. What
a rule reports does not depend on the other rules, even if its check cannot be carried out.
-/

namespace Conventions

/-! ## What one rule reports -/

namespace Rule

theorem report_ruleId (r : Rule) (m : Mismatch) : (r.report m).ruleId = r.id := by
  unfold report
  split <;> rfl

theorem report_of_render {r : Rule} {m : Mismatch} {message : String} (h : r.render m = .ok message) :
    r.report m = ⟨r.id, r.severity, message, m.span⟩ := by
  simp only [report, h]

theorem evaluate_of_error {r : Rule} {q : Request} {f : MatchFailure}
    (h : Matcher.runNamed r.matcher q r.params = .error f) : r.evaluate q = some (r.failedCheck f) := by
  simp only [evaluate, h]

theorem evaluate_of_ok {r : Rule} {q : Request} {m : Option Mismatch}
    (h : Matcher.runNamed r.matcher q r.params = .ok m) : r.evaluate q = m.map r.report := by
  simp only [evaluate, h]

theorem ruleId_of_evaluate {r : Rule} {q : Request} {d : Diagnostic} (h : r.evaluate q = some d) :
    d.ruleId = r.id := by
  cases hm : Matcher.runNamed r.matcher q r.params with
  | error f =>
      rw [evaluate_of_error hm] at h
      cases h; rfl
  | ok m =>
      rw [evaluate_of_ok hm] at h
      obtain ⟨x, _, rfl⟩ := Option.map_eq_some_iff.1 h
      exact r.report_ruleId x

theorem evaluate_eq_none_iff {r : Rule} {q : Request} :
    r.evaluate q = none ↔ Matcher.runNamed r.matcher q r.params = .ok none := by
  cases hm : Matcher.runNamed r.matcher q r.params with
  | error f => simp [evaluate_of_error hm]
  | ok m => simp [evaluate_of_ok hm]

end Rule

/-- Whether one of the diagnostics of a verdict is of a rule. -/
def Verdict.Reports (v : Verdict) (id : String) : Prop := ∃ d ∈ v.diagnostics, d.ruleId = id

namespace RuleSet

/-! ## Aggregating what is in order -/

theorem compareDiagnostics_of_lt {s : RuleSet} {a b : Diagnostic}
    (h : s.indexOf a.ruleId < s.indexOf b.ruleId) : s.compareDiagnostics a b = .lt := by
  have hc : compare (s.indexOf a.ruleId) (s.indexOf b.ruleId) = .lt := Nat.compare_eq_lt.2 h
  simp [compareDiagnostics, hc]

theorem dropDuplicates_eq_self {taken : List (String × Option Span)} {ds : List Diagnostic}
    (hd : (ds.map duplicateKey).Nodup) (ht : ∀ d ∈ ds, duplicateKey d ∉ taken) :
    dropDuplicates taken ds = ds := by
  induction ds generalizing taken with
  | nil => rfl
  | cons d ds ih =>
      simp only [List.map_cons, List.nodup_cons] at hd
      simp only [dropDuplicates, ht d (by simp), if_false, List.cons.injEq, true_and]
      refine ih hd.2 ?_
      intro e he hm
      rcases List.mem_cons.1 hm with hk | hm
      · exact hd.1 (hk ▸ List.mem_map_of_mem he)
      · exact ht e (by simp [he]) hm

/-- Diagnostics that are in order, one for each rule and span, are a verdict as they are. -/
theorem aggregate_of_notAfter {s : RuleSet} {ds : List Diagnostic}
    (hsorted : ds.Pairwise fun a b => s.notAfter a b = true) (hkeys : (ds.map duplicateKey).Nodup) :
    s.aggregate ds = ⟨ds⟩ := by
  rw [aggregate, List.mergeSort_of_pairwise hsorted, dropDuplicates_eq_self hkeys (by simp)]

/-- Diagnostics whose rules stand in order are a verdict as they are. -/
theorem aggregate_eq_self {s : RuleSet} {ds : List Diagnostic}
    (h : ds.Pairwise fun a b => s.indexOf a.ruleId < s.indexOf b.ruleId) : s.aggregate ds = ⟨ds⟩ := by
  have hkeys : (ds.map duplicateKey).Nodup := by
    rw [List.nodup_iff_pairwise_ne, List.pairwise_map]
    refine h.imp ?_
    intro a b hab he
    rw [(Prod.mk.inj he).1] at hab
    exact Nat.lt_irrefl _ hab
  refine aggregate_of_notAfter (h.imp ?_) hkeys
  intro a b hab
  simp [notAfter, compareDiagnostics_of_lt hab]

/-! ## The verdict on a request -/

/-- What some of the rules report on a request, in the order of the rules. -/
def findings (rs : List Rule) (q : Request) : List Diagnostic := rs.filterMap fun r => r.evaluate q

theorem mem_findings {rs : List Rule} {q : Request} {d : Diagnostic} :
    d ∈ findings rs q ↔ ∃ r ∈ rs, r.evaluate q = some d := List.mem_filterMap

theorem pairwise_findings (s : RuleSet) {rs : List Rule} (h : rs.Sublist s.rules) (q : Request) :
    (findings rs q).Pairwise fun a b => s.indexOf a.ruleId < s.indexOf b.ruleId := by
  refine (s.pairwise_indexOf.sublist h).filterMap _ ?_
  intro a b hab d hd e he
  rwa [Rule.ruleId_of_evaluate hd, Rule.ruleId_of_evaluate he]

theorem applicable_congr {q q' : Request} (h : q.categories = q'.categories) (s : RuleSet) :
    s.applicable q = s.applicable q' := by
  simp only [applicable, Rule.serves, h]

theorem diagnostics_validate (s : RuleSet) (q : Request) :
    (s.validate q).diagnostics = findings (s.applicable q) q := by
  have h : s.aggregate (findings (s.applicable q) q) = ⟨findings (s.applicable q) q⟩ :=
    aggregate_eq_self (s.pairwise_findings List.filter_sublist q)
  exact congrArg Verdict.diagnostics h

/-- Keeping the diagnostics of some identifiers is keeping the rules of these identifiers. -/
theorem filter_findings (p : String → Bool) (rs : List Rule) (q : Request) :
    (findings rs q).filter (fun d => p d.ruleId) = findings (rs.filter fun r => p r.id) q := by
  induction rs with
  | nil => rfl
  | cons r rs ih =>
      simp only [findings] at ih
      cases hr : r.evaluate q with
      | none => cases hp : p r.id <;> simp [findings, hr, hp, ih]
      | some d =>
          have hd : d.ruleId = r.id := Rule.ruleId_of_evaluate hr
          cases hp : p r.id <;> simp [findings, hr, hp, hd, ih]

/-- The diagnostics of a rule in a verdict: what it reports, if it serves the request. -/
theorem filter_validate (s : RuleSet) (q : Request) {r : Rule} (h : r ∈ s.rules) :
    (s.validate q).diagnostics.filter (fun d => d.ruleId == r.id) =
      if r.serves q then (r.evaluate q).toList else [] := by
  have hone : (s.applicable q).filter (fun x => x.id == r.id) = [r].filter fun x => x.serves q := by
    rw [← s.filter_id_eq h]
    simp only [applicable, List.filter_filter, Bool.and_comm]
  rw [diagnostics_validate, filter_findings (fun id => id == r.id), hone]
  cases hr : r.serves q with
  | false => simp [findings, hr]
  | true => cases he : r.evaluate q <;> simp [findings, hr, he]

theorem reports_validate_iff (s : RuleSet) (q : Request) {r : Rule} (h : r ∈ s.rules) :
    (s.validate q).Reports r.id ↔ r.serves q = true ∧ r.evaluate q ≠ none := by
  have hfilter := s.filter_validate q h
  constructor
  · rintro ⟨d, hd, hid⟩
    have hmem : d ∈ (s.validate q).diagnostics.filter fun d => d.ruleId == r.id :=
      List.mem_filter.2 ⟨hd, by simpa using hid⟩
    rw [hfilter] at hmem
    split at hmem
    · rename_i hr
      exact ⟨hr, fun he => by simp [he] at hmem⟩
    · cases hmem
  · rintro ⟨hr, he⟩
    obtain ⟨d, hd⟩ := Option.ne_none_iff_exists'.1 he
    refine ⟨d, ?_, Rule.ruleId_of_evaluate hd⟩
    rw [diagnostics_validate, mem_findings]
    exact ⟨r, List.mem_filter.2 ⟨h, hr⟩, hd⟩

theorem validate_eq_nil_iff (s : RuleSet) (q : Request) :
    (s.validate q).diagnostics = [] ↔ ∀ r ∈ s.rules, r.serves q = true → r.evaluate q = none := by
  simp only [diagnostics_validate, findings, List.filterMap_eq_nil_iff, applicable, List.mem_filter,
    and_imp]

/-- If only one rule may report on a request, the verdict is what this rule reports. -/
theorem validate_eq_of_forall_ne (s : RuleSet) (q : Request) {r : Rule} (h : r ∈ s.rules)
    (hr : r.serves q = true)
    (hothers : ∀ x ∈ s.rules, x.serves q = true → x.id ≠ r.id → x.evaluate q = none) :
    (s.validate q).diagnostics = (r.evaluate q).toList := by
  have hfilter := s.filter_validate q h
  rw [if_pos hr] at hfilter
  rw [← hfilter, eq_comm, List.filter_eq_self]
  intro d hd
  rw [diagnostics_validate, mem_findings] at hd
  obtain ⟨x, hx, hd⟩ := hd
  obtain ⟨hmem, hserves⟩ := List.mem_filter.1 hx
  rw [Rule.ruleId_of_evaluate hd, beq_iff_eq]
  by_cases hid : x.id = r.id
  · exact hid
  · rw [hothers x hmem hserves hid] at hd
    cases hd

/-- Without some of its rules, a rule set gives the same diagnostics except for those of these rules. -/
theorem validate_filter {s t : RuleSet} {p : String → Bool}
    (h : ofRules (s.rules.filter fun r => p r.id) = .ok t) (q : Request) :
    (t.validate q).diagnostics = (s.validate q).diagnostics.filter fun d => p d.ruleId := by
  simp only [diagnostics_validate, filter_findings, applicable, rules_of_ofRules h,
    List.filter_filter, Bool.and_comm]

theorem ok_validate_iff (s : RuleSet) (q : Request) :
    (s.validate q).ok = true ↔
      ∀ r ∈ s.applicable q, ∀ d, r.evaluate q = some d → d.severity ≠ .error := by
  simp only [Verdict.ok, diagnostics_validate, List.all_eq_true, decide_eq_true_eq, mem_findings]
  constructor
  · intro h r hr d hd
    exact h d ⟨r, hr, hd⟩
  · rintro h d ⟨r, hr, hd⟩
    exact h r hr d hd

/-- The diagnostics on a request are what the enabled rules of its categories report, in the order of the
rules. Each rule gives the same with and without the other rules, and the failure of a check is an error of its
rule alone. -/
theorem validate_of_ofRules {rs : List Rule} {s : RuleSet} (h : ofRules rs = .ok s) (q : Request) :
    (s.validate q).diagnostics = (rs.filter fun r => r.serves q).filterMap (fun r => r.evaluate q) ∧
      (∀ r ∈ rs, (s.validate q).diagnostics.filter (fun d => d.ruleId == r.id) =
        if r.serves q then (r.evaluate q).toList else []) ∧
      (∀ r ∈ rs, r.serves q = true → ∀ f, Matcher.runNamed r.matcher q r.params = .error f →
        (s.validate q).diagnostics.filter (fun d => d.ruleId == r.id) =
          [⟨r.id, .error, s!"matcher '{r.matcher}' failed: {f.message}", none⟩]) ∧
      (∀ r ∈ rs, ∃ t, ofRules (rs.filter fun x => x.id != r.id) = .ok t ∧
        (t.validate q).diagnostics = (s.validate q).diagnostics.filter fun d => d.ruleId != r.id) ∧
      ((s.validate q).ok = true ↔
        ∀ r ∈ rs, r.serves q = true → ∀ d, r.evaluate q = some d → d.severity ≠ .error) := by
  obtain rfl := rules_of_ofRules h
  refine ⟨s.diagnostics_validate q, fun r hr => s.filter_validate q hr, ?_, ?_, ?_⟩
  · intro r hr hq f hf
    rw [s.filter_validate q hr, if_pos hq, Rule.evaluate_of_error hf]
    rfl
  · intro r _
    obtain ⟨t, ht⟩ := s.exists_ofRules_filter fun x => x.id != r.id
    exact ⟨t, ht, validate_filter (p := fun id => id != r.id) ht q⟩
  · rw [ok_validate_iff]
    simp only [applicable, List.mem_filter, and_imp]

/-- Two rules about commits: the parameters of the first one are no texts, so that its check fails. -/
def failingRules : List Rule :=
  [{ id := "Types", category := .commitMessage, matcher := "commit_type", message := "\x7bvalue\x7d"
     severity := .warning, description := "", params := [("types", .value (.list [.bool true]))]
     enabled := true },
   { id := "Space", category := .commitMessage, matcher := "commit_separator", message := "\x7bdetail\x7d"
     severity := .warning, description := "", params := [], enabled := true }]

theorem validate_failingRules : ∃ s, ofRules failingRules = .ok s ∧
    (s.validate (.commit "fix:x")).diagnostics =
      [⟨"Types", .error,
          "matcher 'commit_type' failed: sequence item 0: expected str instance, bool found", none⟩,
        ⟨"Space", .warning, "expected ': ' (colon followed by a space)", some (.between 3 4)⟩] := by
  have hd : (failingRules.map Rule.id).Nodup := by decide
  have hs : ∀ r ∈ failingRules, r.fault? = none := by decide +kernel
  have h := ofRules_of_sound hd hs
  refine ⟨_, h, (validate_of_ofRules h _).1.trans ?_⟩
  decide +kernel

end RuleSet

end Conventions
