import Mathlib.Data.List.Nodup
import Conventions.Proofs.Commit
import Conventions.Proofs.Report

/-!
# Messages without a separator

The check for the separator reports a header without a colon, and a description that is glued to its colon. Without a
colon the other checks have nothing to look at. With a colon they look at what stands in front of it, whatever the first
check says, so a glued description is reported alone only behind a heading that they accept.
-/

namespace Conventions

theorem RuleDraft.eq_of_id_eq {d e : RuleDraft} (hd : d ∈ defaultDrafts) (he : e ∈ defaultDrafts) (h : d.id = e.id) :
    d = e := List.inj_on_of_nodup_map defaultDrafts_ids_nodup hd he h

namespace RuleSet

variable {set : RuleSet} {params : Category → Params}

/-- A default rule that reports is the only one to do so exactly if all other checks of the request find nothing. -/
theorem ruleIds_default_eq_singleton_iff (h : set.rules = rulesWith params) {d : RuleDraft} (hd : d ∈ defaultDrafts)
    {q : Request} (hreports : (set.validate q).Reports d.id) : (set.validate q).ruleIds = [d.id] ↔
      ∀ c : Matcher, c ≠ d.matcher → c.category ∈ q.categories → c.run q (params c.category) = .ok none := by
  obtain ⟨hserves, _⟩ := (reports_default_iff h (List.mem_map_of_mem hd) q).1 hreports
  constructor
  · intro hids c hne hc
    by_contra hrun
    obtain ⟨e, he, rfl⟩ := exists_draft c
    obtain ⟨x, hx, hid⟩ := (reports_default_iff h (List.mem_map_of_mem he) q).2 ⟨hc, hrun⟩
    have hmem : x.ruleId ∈ (set.validate q).ruleIds := List.mem_map_of_mem hx
    rw [hids, List.mem_singleton, hid] at hmem
    exact hne (congrArg RuleDraft.matcher (RuleDraft.eq_of_id_eq he hd hmem))
  · intro hothers
    obtain ⟨x, hx, hid⟩ := hreports
    have hdiagnostics := validate_default_eq_of_forall_ne h hd hserves hothers
    rw [hdiagnostics, Option.mem_toList] at hx
    rw [Verdict.ruleIds, hdiagnostics, hx, Option.toList_some, List.map_singleton, hid]

end RuleSet

namespace Commit

variable {m : String} {ps : Params} {x : Mismatch}

/-- What stands in front of the first colon of a header line, if there is one, is a heading that the checks accept. -/
def AcceptsLeft (ps : Params) (line : List Char) : Prop :=
  ':' ∉ line ∨ ∃ (p : Heading) (rest : List Char), line = p.text ++ ':' :: rest ∧ ':' ∉ p.text ∧ AcceptsHeading ps p

/-- The check for the separator reports a header line without a colon, or one whose description is not blank and has no
space between it and the colon, if parameters demand one. -/
theorem checkSeparator_eq_some (h : checkSeparator m ps = some x) :
    (':' ∉ headerLine m.toList ∧ header? m ps = some ⟨headerLine m.toList, none⟩) ∨
      ∃ left right, ':' ∉ left ∧ headerLine m.toList = left ++ ':' :: right ∧
        header? m ps = some ⟨left, some right⟩ ∧ ps.isOn "require_space" = true ∧ Text.allBlank right = false ∧
          right.head? ≠ some ' ' := by
  obtain ⟨header, hheader, hmismatch⟩ := Option.bind_eq_some_iff.1 h
  obtain rfl := header?_eq_some hheader
  by_cases hcolon : ':' ∈ headerLine m.toList
  · obtain ⟨left, right, hleft, hline⟩ := Header.exists_append_of_mem hcolon
    rw [hline, Header.ofLine_append hleft] at hheader hmismatch
    have hglued : ¬(ps.isOn "require_space" = true → Text.allBlank right = false → right.head? = some ' ') := by
      intro hspace
      rw [separatorMismatch_eq_none_iff.2 hspace] at hmismatch
      cases hmismatch
    simp only [Classical.not_imp] at hglued
    exact Or.inr ⟨left, right, hleft, hline, hheader, hglued⟩
  · rw [Header.ofLine_of_not_mem hcolon] at hheader
    exact Or.inl ⟨hcolon, hheader⟩

theorem acceptsLeft_append_iff {left right : List Char} (hleft : ':' ∉ left) :
    AcceptsLeft ps (left ++ ':' :: right) ↔ ∃ p, left = p.text ∧ AcceptsHeading ps p := by
  constructor
  · rintro (hnone | ⟨p, rest, hline, hcolon, hp⟩)
    · exact absurd (by simp) hnone
    · have hheader := congrArg Header.ofLine hline
      rw [Header.ofLine_append hleft, Header.ofLine_append hcolon] at hheader
      cases hheader
      exact ⟨p, rfl, hp⟩
  · rintro ⟨p, rfl, hp⟩
    exact Or.inr ⟨p, right, rfl, hleft, hp⟩

/-- Whenever the check for the separator reports, there is a description or nothing to look at for one, and the other
checks find nothing exactly if they accept what stands in front of the colon. -/
theorem isSilent_iff_of_checkSeparator (h : checkSeparator m ps = some x) :
    checkDescription m ps = none ∧ (IsSilent ps m ↔ AcceptsLeft ps (headerLine m.toList)) := by
  rcases checkSeparator_eq_some h with ⟨hcolon, hheader⟩ | ⟨left, right, hleft, hline, hheader, _, hright, _⟩
  · have hsilent := isSilent_of_right_eq_none hheader
    exact ⟨hsilent.description, iff_of_true hsilent (Or.inl hcolon)⟩
  · refine ⟨(checkDescription_eq_none_iff hheader).2 hright, ?_⟩
    rw [isSilent_iff_of_right hheader, hline, acceptsLeft_append_iff hleft, and_iff_left hright]

/-! ## The rule among the default ones -/

theorem reports_missingSeparator_iff {s : Settings} {set : RuleSet} {schema : Schema}
    (h : set.rules = rulesWith (s.params schema)) :
    (set.validate (.commit m)).Reports "Commit.MissingSeparator" ↔ ∃ x, checkSeparator m s.commitParams = some x := by
  have hdraft : ("Commit.MissingSeparator", Matcher.commitSeparator) ∈
      defaultDrafts.map fun d => (d.id, d.matcher) := by decide +kernel
  have hrun : Matcher.commitSeparator.run (.commit m) (s.params schema Matcher.commitSeparator.category) =
      .ok (checkSeparator m s.commitParams) := rfl
  rw [RuleSet.reports_default_iff h hdraft, hrun, ne_eq, Except.ok.injEq, ← ne_eq, Option.ne_none_iff_exists']
  exact and_iff_right (List.mem_singleton_self _)

theorem ruleIds_eq_missingSeparator_iff {s : Settings} {set : RuleSet} {schema : Schema}
    (h : set.rules = rulesWith (s.params schema))
    (hreports : (set.validate (.commit m)).Reports "Commit.MissingSeparator") :
    (set.validate (.commit m)).ruleIds = ["Commit.MissingSeparator"] ↔ IsSilent s.commitParams m := by
  have hone := RuleSet.ruleIds_default_eq_singleton_iff h separatorDraft_mem hreports
  refine hone.trans ?_
  rw [isSilent_iff_run]
  constructor
  · intro hothers c hc hne
    have hrun := hothers c hne (hc ▸ List.mem_singleton_self _)
    rwa [hc] at hrun
  · intro hothers c hne hc
    rw [List.mem_singleton.1 hc]
    exact hothers c (List.mem_singleton.1 hc) hne

/-- Whenever the check for the separator reports, the check of the description finds nothing, and all other checks of
the message find nothing exactly if there is no colon or a heading that they accept in front of it. Exactly then the rule
about the separator is the only default rule that reports. -/
theorem reportedAlone_iff (m : String) :
    (∀ ps x, Matcher.commitSeparator.run (.commit m) ps = .ok (some x) →
      Matcher.commitDescription.run (.commit m) ps = .ok none ∧
        ((∀ c : Matcher, c.category = .commitMessage → c ≠ .commitSeparator → c.run (.commit m) ps = .ok none) ↔
          AcceptsLeft ps (headerLine m.toList))) ∧
      ∀ s set, defaultRuleSet s = .ok set → (set.validate (.commit m)).Reports "Commit.MissingSeparator" →
        ((set.validate (.commit m)).ruleIds = ["Commit.MissingSeparator"] ↔
          AcceptsLeft s.commitParams (headerLine m.toList)) := by
  constructor
  · intro ps x hrun
    obtain ⟨hdescription, hsilent⟩ := isSilent_iff_of_checkSeparator (Except.ok.inj hrun)
    rw [← isSilent_iff_run]
    exact ⟨congrArg Except.ok hdescription, hsilent⟩
  · intro s set hset hreports
    obtain ⟨schema, _, hrules⟩ := rules_of_defaultRuleSet hset
    obtain ⟨x, hx⟩ := (reports_missingSeparator_iff hrules).1 hreports
    rw [ruleIds_eq_missingSeparator_iff hrules hreports]
    exact (isSilent_iff_of_checkSeparator hx).2

/-- A description that is glued to the colon behind an accepted heading is all that is reported. -/
theorem reportedAlone_gluedDescription : ∃ x,
    Matcher.commitSeparator.run (.commit "feat(ui):add page") Settings.default.commitParams = .ok (some x) ∧
      (∀ c : Matcher, c.category = .commitMessage → c ≠ .commitSeparator →
        c.run (.commit "feat(ui):add page") Settings.default.commitParams = .ok none) ∧
      (RuleSet.default.validate (.commit "feat(ui):add page")).ruleIds = ["Commit.MissingSeparator"] := by
  obtain ⟨x, hx⟩ : ∃ x, checkSeparator "feat(ui):add page" Settings.default.commitParams = some x :=
    Option.isSome_iff_exists.1 (by decide +kernel)
  have hheading : Heading.parse "feat(ui)".toList = some ⟨"feat".toList, some "ui".toList, false⟩ := by decide
  have haccepts : AcceptsLeft Settings.default.commitParams (headerLine "feat(ui):add page".toList) := by
    refine Or.inr ⟨⟨"feat".toList, some "ui".toList, false⟩, "add page".toList, by decide, by decide, ?_⟩
    refine acceptsHeading_commitParams_iff.2 ⟨(Heading.parse_eq_some_iff.1 hheading).1,
      Value.any_isText_iff.1 (by decide), ?_, nofun⟩
    intro cs hs
    cases hs
    decide
  obtain ⟨hchecks, hverdict⟩ := reportedAlone_iff "feat(ui):add page"
  obtain ⟨_, _, hrules⟩ := rules_of_defaultRuleSet defaultRuleSet_default
  have hreports := (reports_missingSeparator_iff hrules).2 ⟨x, hx⟩
  exact ⟨x, congrArg Except.ok hx, (hchecks _ _ (congrArg Except.ok hx)).2.2 haccepts,
    (hverdict _ _ defaultRuleSet_default hreports).2 haccepts⟩

/-- A description that is glued to the colon does not keep the check of the type from reporting as well. -/
theorem not_reportedAlone_unknownType :
    (¬∀ (m : String) (ps : Params) (x : Mismatch), Matcher.commitSeparator.run (.commit m) ps = .ok (some x) →
      ∀ c : Matcher, c.category = .commitMessage → c ≠ .commitSeparator → c.run (.commit m) ps = .ok none) ∧
      ¬∀ (m : String) (s : Settings) (set : RuleSet), defaultRuleSet s = .ok set →
        (set.validate (.commit m)).Reports "Commit.MissingSeparator" →
          (set.validate (.commit m)).ruleIds = ["Commit.MissingSeparator"] := by
  obtain ⟨x, hx⟩ : ∃ x, checkSeparator "Feat:add page" Settings.default.commitParams = some x :=
    Option.isSome_iff_exists.1 (by decide +kernel)
  have hloud : ¬IsSilent Settings.default.commitParams "Feat:add page" := by
    intro hsilent
    have htype : (checkType "Feat:add page" Settings.default.commitParams).toOption.any Option.isSome = true := by
      decide +kernel
    rw [hsilent.type] at htype
    cases htype
  constructor
  · intro hfirst
    exact hloud (isSilent_iff_run.2 (hfirst _ _ x (congrArg Except.ok hx)))
  · intro halone
    obtain ⟨_, _, hrules⟩ := rules_of_defaultRuleSet defaultRuleSet_default
    have hreports := (reports_missingSeparator_iff hrules).2 ⟨x, hx⟩
    exact hloud ((ruleIds_eq_missingSeparator_iff hrules hreports).1
      (halone _ _ _ defaultRuleSet_default hreports))

end Commit

end Conventions
