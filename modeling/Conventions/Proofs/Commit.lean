import Conventions.Proofs.DefaultRules
import Conventions.Proofs.Header
import Conventions.Proofs.HeaderLine
import Conventions.Proofs.Matcher
import Conventions.Proofs.Template

/-!
# Commit messages and their grammar

Each of the five checks looks at one part of the header. Together they find nothing exactly if the header is
a heading, a colon and a description that keep to the settings. Without a colon only the first check
reports.
-/

namespace Conventions.Commit

/-- Whether a heading and a description keep to settings. -/
structure Conforms (s : Settings) (h : Heading) (description : List Char) : Prop where
  type_mem : Value.text (String.ofList h.type) ∈ s.commitTypes
  type_ne_nil : h.type ≠ []
  type_chars : ∀ c ∈ h.type, Text.isBlank c = false ∧ c ≠ '(' ∧ c ≠ ')' ∧ c ≠ '!' ∧ c ≠ ':'
  scope_not_blank : ∀ cs, h.scope = some cs → Text.allBlank cs = false
  scope_chars : ∀ cs, h.scope = some cs → ∀ c ∈ cs, c ≠ '(' ∧ c ≠ ')' ∧ c ≠ ':'
  breaking : h.breaking = true → s.allowBreaking.isTrue = true
  description_not_blank : Text.allBlank description = false
  space : s.requireSpace.isTrue = true → description.head? = some ' '

/-! ## The parts of a header -/

theorem typeMismatch_eq_ok_none_iff {h : Header} {types : List Value} :
    typeMismatch h types = .ok none ↔ Value.text (String.ofList h.typeToken) ∈ types := by
  rw [← Value.any_isText_iff]
  simp only [typeMismatch]
  split
  · simp [*]
  · rename_i hany
    simp only [hany, Bool.false_eq_true, iff_false]
    intro hok
    obtain ⟨ts, _, hts⟩ := Except.map_eq_ok.1 hok
    cases hts

theorem scopeMismatch_eq_none_iff {h : Header} :
    scopeMismatch h = none ↔ ∀ cs, scopePart? h.left = some cs → Text.allBlank cs = false := by
  simp only [scopeMismatch, scopePart?]
  cases scopeBounds? h.left with
  | none => simp
  | some b =>
      simp only [Option.bind_some, Option.map_some, Option.some.injEq, forall_eq']
      split <;> simp [*]

theorem headingMismatch_eq_none_iff {h : Header} {allowBreaking : Bool} :
    headingMismatch h allowBreaking = none ↔
      ∃ p, Heading.parse h.left = some p ∧ (p.breaking = true → allowBreaking = true) := by
  simp only [headingMismatch]
  cases Heading.parse h.left with
  | none => simp
  | some p => cases hp : p.breaking <;> cases allowBreaking <;> simp [hp]

theorem allBlank_description {left right : List Char} :
    Text.allBlank (Header.description ⟨left, some right⟩) = Text.allBlank right := by
  simp only [Header.description]
  split
  · contradiction
  · rename_i hright
    cases hright
    rfl
  · rename_i hright
    cases hright
    rfl

theorem descriptionMismatch_eq_none_iff {left right : List Char} :
    descriptionMismatch ⟨left, some right⟩ = none ↔ Text.allBlank right = false := by
  rw [descriptionMismatch, allBlank_description]
  cases Text.allBlank right <;> simp

theorem separatorMismatch_eq_none_iff {left right : List Char} {requireSpace : Bool} :
    separatorMismatch ⟨left, some right⟩ requireSpace = none ↔
      (requireSpace = true → Text.allBlank right = false → right.head? = some ' ') := by
  simp only [separatorMismatch]
  cases requireSpace <;> cases Text.allBlank right <;> simp

/-! ## Headers that conform -/

theorem isTypeChar_iff {c : Char} : Heading.isTypeChar c = true ↔
    Text.isBlank c = false ∧ c ≠ '(' ∧ c ≠ ')' ∧ c ≠ '!' ∧ c ≠ ':' := by
  simp [Heading.isTypeChar, and_assoc]

theorem isScopeChar_iff {c : Char} : Heading.isScopeChar c = true ↔ c ≠ '(' ∧ c ≠ ')' := by
  simp [Heading.isScopeChar]

theorem colon_not_mem_text_iff {h : Heading} (hwf : h.IsWellFormed) :
    ':' ∉ h.text ↔ ∀ cs, h.scope = some cs → ∀ c ∈ cs, c ≠ ':' := by
  have htype : ':' ∉ h.type := hwf.not_mem_type (by decide)
  have hmark : ':' ∉ Heading.markText h.breaking := by cases h.breaking <;> decide
  cases hs : h.scope with
  | none => simp [Heading.text_of_none hs, htype, hmark]
  | some cs =>
      have htext : ':' ∉ h.text ↔ ':' ∉ cs := by
        rw [Heading.text_of_scope hs]
        simp [htype, hmark]
      simp only [htext, Option.some.injEq, forall_eq']
      exact ⟨fun hm c hc he => hm (he ▸ hc), fun hne hm => hne ':' hm rfl⟩

variable {s : Settings} {set : RuleSet}

theorem conforms_iff {h : Heading} {d : List Char} : Conforms s h d ↔
    (h.IsWellFormed ∧ ':' ∉ h.text) ∧ Value.text (String.ofList h.type) ∈ s.commitTypes ∧
      (∀ cs, h.scope = some cs → Text.allBlank cs = false) ∧
      (h.breaking = true → s.allowBreaking.isTrue = true) ∧ Text.allBlank d = false ∧
      (s.requireSpace.isTrue = true → d.head? = some ' ') := by
  constructor
  · intro hc
    have hwf : h.IsWellFormed :=
      ⟨hc.type_ne_nil, fun c hm => isTypeChar_iff.2 (hc.type_chars c hm), fun cs hs c hm =>
        isScopeChar_iff.2 ⟨(hc.scope_chars cs hs c hm).1, (hc.scope_chars cs hs c hm).2.1⟩⟩
    have hcolon : ':' ∉ h.text :=
      (colon_not_mem_text_iff hwf).2 fun cs hs c hm => (hc.scope_chars cs hs c hm).2.2
    exact ⟨⟨hwf, hcolon⟩, hc.type_mem, hc.scope_not_blank, hc.breaking, hc.description_not_blank, hc.space⟩
  · rintro ⟨⟨hwf, hcolon⟩, htype, hscope, hbreaking, hdescription, hspace⟩
    refine ⟨htype, hwf.type_ne_nil, fun c hm => isTypeChar_iff.1 (hwf.type_chars c hm), hscope, ?_,
      hbreaking, hdescription, hspace⟩
    intro cs hs c hm
    obtain ⟨hopen, hclose⟩ := isScopeChar_iff.1 (hwf.scope_chars cs hs c hm)
    exact ⟨hopen, hclose, (colon_not_mem_text_iff hwf).1 hcolon cs hs c hm⟩

/-! ## The five checks -/

/-- Whether a message is about a merge or a revert and settings leave such messages alone. -/
def IsSkipped (s : Settings) (m : String) : Prop :=
  s.ignoreMerges.isTrue = true ∧ ("Merge ".toList <+: m.toList ∨ "Revert \"".toList <+: m.toList)

theorem isSkipped_iff {m : String} : IsSkipped s m ↔ (s.ignoreMerges.isTrue && isMerge m) = true := by
  simp only [IsSkipped, isMerge, Bool.and_eq_true, Bool.or_eq_true, List.isPrefixOf_iff_prefix]

theorem header?_commitParams (m : String) : header? m s.commitParams =
    if s.ignoreMerges.isTrue && isMerge m then none else some (Header.parse m) := rfl

theorem header?_of_isSkipped {m : String} (h : IsSkipped s m) : header? m s.commitParams = none := by
  rw [header?_commitParams, if_pos (isSkipped_iff.1 h)]

theorem header?_of_not_isSkipped {m : String} (h : ¬IsSkipped s m) :
    header? m s.commitParams = some (Header.parse m) := by
  rw [header?_commitParams, if_neg (fun hm => h (isSkipped_iff.2 hm))]

/-- The checks of a message find nothing. -/
def Passes (s : Settings) (m : String) : Prop :=
  checkSeparator m s.commitParams = none ∧ checkType m s.commitParams = .ok none ∧
    checkScope m s.commitParams = none ∧ checkHeading m s.commitParams = none ∧
      checkDescription m s.commitParams = none

/-- All checks of a message but the one for the separator find nothing. -/
structure IsSilent (ps : Params) (m : String) : Prop where
  type : checkType m ps = .ok none
  scope : checkScope m ps = none
  heading : checkHeading m ps = none
  description : checkDescription m ps = none

theorem isSilent_iff_run {ps : Params} {m : String} : IsSilent ps m ↔ ∀ c : Matcher, c.category = .commitMessage →
    c ≠ .commitSeparator → c.run (.commit m) ps = .ok none := by
  constructor
  · intro h c hc hne
    cases c with
    | commitSeparator => exact absurd rfl hne
    | commitType => exact h.type
    | commitScope => exact congrArg Except.ok h.scope
    | commitHeader => exact congrArg Except.ok h.heading
    | commitDescription => exact congrArg Except.ok h.description
    | _ => cases hc
  · intro h
    exact ⟨h .commitType rfl nofun, Except.ok.inj (h .commitScope rfl nofun),
      Except.ok.inj (h .commitHeader rfl nofun), Except.ok.inj (h .commitDescription rfl nofun)⟩

theorem passes_iff_isSilent {m : String} : Passes s m ↔
    checkSeparator m s.commitParams = none ∧ IsSilent s.commitParams m := by
  constructor
  · rintro ⟨hseparator, hrest⟩
    exact ⟨hseparator, hrest.1, hrest.2.1, hrest.2.2.1, hrest.2.2.2⟩
  · rintro ⟨hseparator, hsilent⟩
    exact ⟨hseparator, hsilent.type, hsilent.scope, hsilent.heading, hsilent.description⟩

theorem forall_commit_checks_iff {m : String} {schema : Schema} :
    (∀ c : Matcher, c.category ∈ (Request.commit m).categories →
      c.run (.commit m) (s.params schema c.category) = .ok none) ↔ Passes s m := by
  rw [passes_iff_isSilent, isSilent_iff_run]
  constructor
  · intro h
    refine ⟨Except.ok.inj (h .commitSeparator (List.mem_singleton_self _)), fun c hc _ => ?_⟩
    have hc' := h c (hc ▸ List.mem_singleton_self _)
    rwa [hc] at hc'
  · rintro ⟨hseparator, hothers⟩ c hc
    rw [List.mem_singleton.1 hc]
    by_cases hne : c = .commitSeparator
    · subst hne
      exact congrArg Except.ok hseparator
    · exact hothers c (List.mem_singleton.1 hc) hne

theorem passes_of_header?_eq_none {m : String} (h : header? m s.commitParams = none) : Passes s m := by
  simp [Passes, checkSeparator, checkType, checkScope, checkHeading, checkDescription, separated?, h]

theorem checkSeparator_of_right_eq_none {m : String} {line : List Char}
    (h : header? m s.commitParams = some ⟨line, none⟩) :
    checkSeparator m s.commitParams =
      some ⟨String.ofList line, pattern, some (.between 0 line.length), "missing ':' separator"⟩ := by
  rw [checkSeparator, h]
  rfl

/-- Without a colon only the first check looks at the header. -/
theorem isSilent_of_right_eq_none {ps : Params} {m : String} {line : List Char}
    (h : header? m ps = some ⟨line, none⟩) : IsSilent ps m := by
  have hseparated : separated? m ps = none := by simp [separated?, h]
  refine ⟨?type, ?scope, ?heading, ?description⟩
  case type => rw [checkType, hseparated]
  case scope => rw [checkScope, hseparated, Option.bind_none]
  case heading => rw [checkHeading, hseparated, Option.bind_none]
  case description => rw [checkDescription, hseparated, Option.bind_none]

/-- Whether a heading is one that the checks accept under some parameters. -/
structure AcceptsHeading (ps : Params) (p : Heading) : Prop where
  isWellFormed : p.IsWellFormed
  type_mem : ∃ types, (ps.listOr "types" defaultTypes).items = .ok types ∧ Value.text (String.ofList p.type) ∈ types
  scope_not_blank : ∀ cs, p.scope = some cs → Text.allBlank cs = false
  breaking : p.breaking = true → ps.isOn "allow_breaking" = true

theorem checkDescription_eq_none_iff {ps : Params} {m : String} {left right : List Char}
    (h : header? m ps = some ⟨left, some right⟩) : checkDescription m ps = none ↔ Text.allBlank right = false := by
  have hseparated : separated? m ps = some ⟨left, some right⟩ := by simp [separated?, h]
  rw [checkDescription, hseparated]
  exact descriptionMismatch_eq_none_iff

/-- With a colon the checks find nothing exactly if they accept what stands in front of it, and something follows. -/
theorem isSilent_iff_of_right {ps : Params} {m : String} {left right : List Char}
    (h : header? m ps = some ⟨left, some right⟩) :
    IsSilent ps m ↔ (∃ p, left = p.text ∧ AcceptsHeading ps p) ∧ Text.allBlank right = false := by
  have hseparated : separated? m ps = some ⟨left, some right⟩ := by simp [separated?, h]
  have htype : checkType m ps = .ok none ↔ ∃ types, (ps.listOr "types" defaultTypes).items = .ok types ∧
      Value.text (String.ofList (Header.typeToken ⟨left, some right⟩)) ∈ types := by
    rw [checkType, hseparated, Except.bind_eq_ok]
    simp only [typeMismatch_eq_ok_none_iff]
  have hscope : checkScope m ps = none ↔ ∀ cs, scopePart? left = some cs → Text.allBlank cs = false := by
    rw [checkScope, hseparated]
    exact scopeMismatch_eq_none_iff
  have hheading : checkHeading m ps = none ↔ ∃ p : Heading, (p.IsWellFormed ∧ left = p.text) ∧
      (p.breaking = true → ps.isOn "allow_breaking" = true) := by
    rw [checkHeading, hseparated]
    refine headingMismatch_eq_none_iff.trans ?_
    simp only [Heading.parse_eq_some_iff]
  have hdescription := checkDescription_eq_none_iff h
  constructor
  · rintro ⟨ht, hc, hh, hd⟩
    obtain ⟨p, ⟨hwf, rfl⟩, hb⟩ := hheading.1 hh
    rw [htype, Heading.typeToken_text hwf] at ht
    rw [hscope, scopePart?_text hwf] at hc
    exact ⟨⟨p, rfl, hwf, ht, hc, hb⟩, hdescription.1 hd⟩
  · rintro ⟨⟨p, rfl, hwf, ht, hc, hb⟩, hd⟩
    refine ⟨htype.2 ?_, hscope.2 ?_, hheading.2 ⟨p, ⟨hwf, rfl⟩, hb⟩, hdescription.2 hd⟩
    · rwa [Heading.typeToken_text hwf]
    · rwa [scopePart?_text hwf]

theorem acceptsHeading_commitParams_iff {p : Heading} : AcceptsHeading s.commitParams p ↔ p.IsWellFormed ∧
    Value.text (String.ofList p.type) ∈ s.commitTypes ∧ (∀ cs, p.scope = some cs → Text.allBlank cs = false) ∧
      (p.breaking = true → s.allowBreaking.isTrue = true) := by
  constructor
  · rintro ⟨hwf, ⟨types, htypes, hmem⟩, hscope, hbreaking⟩
    cases htypes
    exact ⟨hwf, hmem, hscope, hbreaking⟩
  · rintro ⟨hwf, hmem, hscope, hbreaking⟩
    exact ⟨hwf, ⟨_, rfl, hmem⟩, hscope, hbreaking⟩

theorem passes_iff_of_right {m : String} {left right : List Char}
    (h : header? m s.commitParams = some ⟨left, some right⟩) :
    Passes s m ↔ ∃ p : Heading, p.IsWellFormed ∧ left = p.text ∧
      Value.text (String.ofList p.type) ∈ s.commitTypes ∧
      (∀ cs, p.scope = some cs → Text.allBlank cs = false) ∧
      (p.breaking = true → s.allowBreaking.isTrue = true) ∧ Text.allBlank right = false ∧
      (s.requireSpace.isTrue = true → right.head? = some ' ') := by
  have hseparator : checkSeparator m s.commitParams =
      separatorMismatch ⟨left, some right⟩ s.requireSpace.isTrue := by
    rw [checkSeparator, h]
    rfl
  rw [passes_iff_isSilent, hseparator, separatorMismatch_eq_none_iff, isSilent_iff_of_right h]
  simp only [acceptsHeading_commitParams_iff]
  constructor
  · rintro ⟨hs, ⟨p, rfl, hwf, ht, hc, hb⟩, hd⟩
    exact ⟨p, hwf, rfl, ht, hc, hb, hd, fun hreq => hs hreq hd⟩
  · rintro ⟨p, hwf, rfl, ht, hc, hb, hd, hs⟩
    exact ⟨fun hreq _ => hs hreq, ⟨p, rfl, hwf, ht, hc, hb⟩, hd⟩

/-- The checks find nothing exactly if the header is a heading, a colon and a description that conform. -/
theorem passes_iff {m : String} (h : header? m s.commitParams = some (Header.parse m)) :
    Passes s m ↔ ∃ (p : Heading) (d : List Char),
      headerLine m.toList = p.text ++ ':' :: d ∧ Conforms s p d := by
  by_cases hcolon : ':' ∈ headerLine m.toList
  · obtain ⟨left, right, hleft, hline⟩ := Header.exists_append_of_mem hcolon
    rw [Header.parse, hline, Header.ofLine_append hleft] at h
    rw [passes_iff_of_right h, hline]
    constructor
    · rintro ⟨p, hwf, rfl, hrest⟩
      exact ⟨p, right, rfl, conforms_iff.2 ⟨⟨hwf, hleft⟩, hrest⟩⟩
    · rintro ⟨p, d, heq, hc⟩
      obtain ⟨⟨hwf, hp⟩, hrest⟩ := conforms_iff.1 hc
      have hheader := congrArg Header.ofLine heq
      rw [Header.ofLine_append hleft, Header.ofLine_append hp] at hheader
      cases hheader
      exact ⟨p, hwf, rfl, hrest⟩
  · rw [Header.parse, Header.ofLine_of_not_mem hcolon] at h
    have hseparator := checkSeparator_of_right_eq_none h
    constructor
    · intro hpasses
      rw [hpasses.1] at hseparator
      cases hseparator
    · rintro ⟨p, d, hline, _⟩
      rw [hline] at hcolon
      exact absurd (by simp) hcolon

/-! ## Verdicts -/

/-- The message about a header without a colon. -/
def missingSeparator (line : List Char) : String :=
  "Commit header '" ++ String.ofList line ++ "': missing ':' separator; expected " ++ pattern

theorem render_missingSeparator (params : Category → Params) (line : List Char) (span : Option Span) :
    (separatorDraft.rule params).render ⟨String.ofList line, pattern, span, "missing ':' separator"⟩ =
      .ok (missingSeparator line) := by
  have hpieces : (Template.read separatorDraft.message.toList).pieces =
      "Commit header '".toList.map .literal ++ .field "value".toList none [] ::
        ("': ".toList.map .literal ++ .field "detail".toList none [] ::
          ("; expected ".toList.map .literal ++ [.field "expected".toList none []])) := rfl
  rw [Rule.render_eq_ok (RuleDraft.templateFault?_rule separatorDraft_mem)]
  show Except.ok (String.ofList ((Template.read separatorDraft.message.toList).pieces.flatMap _)) = _
  rw [hpieces, Template.flatMap_fill_append, Template.flatMap_fill_append, Template.flatMap_fill_append,
    Rule.fieldValue_value, Rule.fieldValue_detail, Rule.fieldValue_expected, List.flatMap_nil,
    List.append_nil, Except.ok.injEq]
  have hline : (String.ofList line).toList = line := String.toList_ofList
  have hwords : "': ".toList ++ ("missing ':' separator".toList ++ ("; expected ".toList ++ pattern.toList)) =
      "': missing ':' separator; expected ".toList ++ pattern.toList := by decide
  have hmessage : missingSeparator line =
      "Commit header '" ++ String.ofList line ++ "': missing ':' separator; expected " ++ pattern := rfl
  refine String.toList_inj.1 (String.toList_ofList.trans ?_)
  rw [hmessage, String.toList_append, String.toList_append, String.toList_append, hline,
    Option.getD_some, hline, List.append_assoc, List.append_assoc]
  exact congrArg (fun cs => "Commit header '".toList ++ (line ++ cs)) hwords

theorem evaluate_missingSeparator {m : String} {line : List Char} {schema : Schema}
    (h : header? m s.commitParams = some ⟨line, none⟩) :
    (separatorDraft.rule (s.params schema)).evaluate (.commit m) =
      some ⟨"Commit.MissingSeparator", .error, missingSeparator line, some (.between 0 line.length)⟩ := by
  have hrun : separatorDraft.matcher.run (.commit m) (s.params schema separatorDraft.matcher.category) =
      .ok (checkSeparator m s.commitParams) := rfl
  rw [Rule.evaluate_of_ok ((RuleDraft.runNamed_rule _ _).trans hrun), checkSeparator_of_right_eq_none h,
    Option.map_some, Rule.report_of_render (render_missingSeparator _ _ _)]
  rfl

/-- The verdict of the default rules on a commit message: nothing on a merge or a revert that is left alone; on
another message nothing exactly if its first line is a heading, a colon and a description that keep to the
settings, and a single diagnostic if the line has no colon. The line is the one up to the first line feed, without the
carriage returns at its end. -/
theorem validate_commit (h : defaultRuleSet s = .ok set) (m : String) :
    (IsSkipped s m → (set.validate (.commit m)).diagnostics = []) ∧
      (¬IsSkipped s m →
        ((set.validate (.commit m)).diagnostics = [] ↔ ∃ (p : Heading) (d : List Char),
          headerLine m.toList = p.text ++ ':' :: d ∧ Conforms s p d) ∧
        (':' ∉ headerLine m.toList → (set.validate (.commit m)).diagnostics =
          [⟨"Commit.MissingSeparator", .error, missingSeparator (headerLine m.toList),
            some (.between 0 (headerLine m.toList).length)⟩])) ∧
      ∀ line, headerLine m.toList = line ↔ IsHeaderLine m.toList line := by
  obtain ⟨schema, _, hrules⟩ := rules_of_defaultRuleSet h
  have hnil := RuleSet.validate_default_eq_nil_iff hrules (.commit m)
  rw [forall_commit_checks_iff] at hnil
  refine ⟨fun hskipped => hnil.2 (passes_of_header?_eq_none (header?_of_isSkipped hskipped)), ?_,
    fun _ => headerLine_eq_iff⟩
  intro hskipped
  have hheader := header?_of_not_isSkipped hskipped
  refine ⟨hnil.trans (passes_iff hheader), ?_⟩
  intro hcolon
  rw [Header.parse, Header.ofLine_of_not_mem hcolon] at hheader
  have hothers (c : Matcher) (hne : c ≠ .commitSeparator) (hc : c.category ∈ (Request.commit m).categories) :
      c.run (.commit m) (s.params schema c.category) = .ok none := by
    have hcategory : c.category = .commitMessage := List.mem_singleton.1 hc
    rw [hcategory]
    exact isSilent_iff_run.1 (isSilent_of_right_eq_none hheader) c hcategory hne
  rw [RuleSet.validate_default_eq_of_forall_ne hrules separatorDraft_mem (List.mem_singleton_self _) hothers,
    evaluate_missingSeparator hheader, Option.toList_some]

theorem validate_commit_default :
    (RuleSet.default.validate (.commit "Merge branch 'x'")).diagnostics = [] ∧
    (RuleSet.default.validate (.commit "feat(ui)!: add page\r\nbody")).diagnostics = [] ∧
    (RuleSet.default.validate (.commit "add page")).diagnostics =
      [⟨"Commit.MissingSeparator", .error,
        "Commit header 'add page': missing ':' separator; expected <type>[(scope)]: <description>",
        some (.between 0 8)⟩] := by
  have hskipped : IsSkipped Settings.default "Merge branch 'x'" := isSkipped_iff.2 (by decide)
  have hchecked (m : String) (hm : (Settings.default.ignoreMerges.isTrue && isMerge m) = false) :
      ¬IsSkipped Settings.default m := by
    rw [isSkipped_iff, hm]
    exact Bool.false_ne_true
  have hheading : Heading.parse "feat(ui)!".toList = some ⟨"feat".toList, some "ui".toList, true⟩ := by decide
  have hconforms : Conforms Settings.default ⟨"feat".toList, some "ui".toList, true⟩ " add page".toList := by
    refine conforms_iff.2 ⟨⟨(Heading.parse_eq_some_iff.1 hheading).1, by decide⟩,
      Value.any_isText_iff.1 (by decide), ?_, fun _ => rfl, by decide, fun _ => rfl⟩
    intro cs hs
    cases hs
    decide
  obtain ⟨_, hverdict, hline⟩ := validate_commit defaultRuleSet_default "feat(ui)!: add page\r\nbody"
  obtain ⟨hpasses, _⟩ := hverdict (hchecked _ (by decide))
  have hheader : headerLine "feat(ui)!: add page\r\nbody".toList = "feat(ui)!: add page".toList := by
    have hrest : ∀ c, "\nbody".toList.head? = some c → c = '\n' := fun _ hc => (Option.some.inj hc).symm
    have happend : ∃ returns rest, (∀ c ∈ returns, c = '\r') ∧ (∀ c, rest.head? = some c → c = '\n') ∧
        "feat(ui)!: add page".toList ++ returns ++ rest = "feat(ui)!: add page\r\nbody".toList :=
      ⟨['\r'], "\nbody".toList, List.forall_mem_singleton.2 rfl, hrest, by decide⟩
    exact (hline _).2 ⟨happend, by decide, by decide⟩
  obtain ⟨_, hseparator, _⟩ := validate_commit defaultRuleSet_default "add page"
  obtain ⟨_, hmissing⟩ := hseparator (hchecked _ (by decide))
  refine ⟨(validate_commit defaultRuleSet_default _).1 hskipped, hpasses.2 ⟨_, _, ?_, hconforms⟩, ?_⟩
  · rw [hheader]
    decide
  · exact hmissing (by decide)

end Conventions.Commit
