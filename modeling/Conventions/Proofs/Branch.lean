import Mathlib.Data.List.TakeWhile
import Conventions.Proofs.DefaultRules
import Conventions.Proofs.Matcher
import Conventions.Proofs.Text

/-!
# Branch names and their grammar

The scan of a title finds no fault exactly if the title is in kebab case: splitting it at the hyphens gives
words, each of one or more lower-case letters and digits. With it, the two checks of a branch name are read
as a grammar.
-/

namespace Conventions.Branch

/-- Whether a text is a word of a title: lower-case letters and digits of ASCII, at least one. -/
def IsWord (w : List Char) : Prop := w ≠ [] ∧ ∀ c ∈ w, isTitleChar c = true

/-- Whether a title is in kebab case: words with single hyphens between them. -/
def IsKebab (title : List Char) : Prop :=
  ∃ words, words ≠ [] ∧ (∀ w ∈ words, IsWord w) ∧ title = Text.join ['-'] words

/-- Whether a name is an issue number, a hyphen and a title in kebab case. -/
def IsName (name : List Char) : Prop :=
  ∃ digits title, digits ≠ [] ∧ (∀ c ∈ digits, c.isDigit = true) ∧ IsKebab title ∧
    name = digits ++ '-' :: title

/-- Whether what follows the digits of a name is a hyphen and a title in kebab case; without digits the name
itself is the title. -/
def HasTitle (name : List Char) : Prop :=
  if leadingDigits name = [] then IsKebab name
  else ∃ title, IsKebab title ∧ name = leadingDigits name ++ '-' :: title

/-! ## Characters of titles -/

theorem not_isTitleChar_hyphen : isTitleChar '-' = false := by decide

theorem hyphen_not_mem_word {w : List Char} (h : IsWord w) : '-' ∉ w := by
  intro hm
  have hc := h.2 '-' hm
  rw [not_isTitleChar_hyphen] at hc
  cases hc

theorem isUpper_of_isTitleChar {c : Char} (h : isTitleChar c = true) : Text.isUpper c = false := by
  simp only [isTitleChar, Bool.or_eq_true, Text.isLower_iff, Text.isDigit_iff] at h
  refine Text.isUpper_eq_false_of_lt (by omega) ?_
  rw [Bool.eq_false_iff]
  intro hu
  rw [Text.isUpper_iff] at hu
  omega

theorem charFault?_hyphen {p : Option Char} {isLast : Bool} :
    charFault? p '-' isLast = none ↔ p ≠ none ∧ p ≠ some '-' ∧ isLast = false := by
  have hupper : Text.isUpper '-' = false := by decide
  have hunderscore : '-' ≠ '_' := by decide
  simp only [charFault?, hupper, Bool.false_eq_true, if_false, if_neg hunderscore, if_true]
  split
  · simp [*]
  · split
    · simp [*]
    · cases isLast <;> simp [*]

theorem charFault?_of_ne {p : Option Char} {c : Char} {isLast : Bool} (h : c ≠ '-') :
    charFault? p c isLast = none ↔ isTitleChar c = true := by
  cases ht : isTitleChar c with
  | true =>
      have hunderscore : c ≠ '_' := by
        rintro rfl
        exact absurd ht (by decide)
      simp [charFault?, isUpper_of_isTitleChar ht, hunderscore, h, ht]
  | false =>
      simp only [charFault?, if_neg h, ht]
      split
      · simp
      · split <;> simp

/-! ## Titles -/

theorem faultFrom_cons_eq_none_iff {p : Option Char} {c : Char} {cs : List Char} :
    faultFrom p (c :: cs) = none ↔ charFault? p c cs.isEmpty = none ∧ faultFrom (some c) cs = none := by
  simp only [faultFrom]
  split
  · simp [*]
  · simp [*]

/-- The scan of the rest of a title: only the first word may go on what stands before it. -/
theorem faultFrom_eq_none_iff {p : Option Char} {cs f : List Char} {fs : List (List Char)}
    (h : Text.splitOn '-' cs = f :: fs) :
    faultFrom p cs = none ↔
      cs = [] ∨ (f = [] → p ≠ none ∧ p ≠ some '-') ∧ (∀ c ∈ f, isTitleChar c = true) ∧
        ∀ w ∈ fs, IsWord w := by
  -- A hyphen closes the word before it and asks for a word after it; any other character joins the first word.
  induction cs generalizing p f fs with
  | nil => simp [faultFrom]
  | cons c cs ih =>
      obtain ⟨g, gs, hcs⟩ := List.exists_cons_of_ne_nil (Text.splitOn_ne_nil '-' cs)
      have hnil : cs = [] → g = [] ∧ gs = [] := by
        rintro rfl
        cases hcs
        exact ⟨rfl, rfl⟩
      rw [faultFrom_cons_eq_none_iff, ih hcs]
      by_cases hc : c = '-'
      · subst hc
        rw [Text.splitOn_cons_self, hcs] at h
        cases h
        rw [charFault?_hyphen]
        constructor
        · rintro ⟨⟨hp, hq, hempty⟩, hcs | ⟨hg, hchars, hgs⟩⟩
          · simp [hcs] at hempty
          · have hw : IsWord g := ⟨fun h => (hg h).2 rfl, hchars⟩
            exact Or.inr ⟨fun _ => ⟨hp, hq⟩, by simp, List.forall_mem_cons.2 ⟨hw, hgs⟩⟩
        · rintro (h | ⟨hp, _, hw⟩)
          · cases h
          · rw [List.forall_mem_cons] at hw
            have hempty : cs.isEmpty = false := by
              rw [Bool.eq_false_iff]
              intro h
              exact hw.1.1 (hnil (List.isEmpty_iff.1 h)).1
            exact ⟨⟨(hp rfl).1, (hp rfl).2, hempty⟩, Or.inr ⟨fun h => absurd h hw.1.1, hw.1.2, hw.2⟩⟩
      · rw [Text.splitOn_cons_of_ne hc hcs] at h
        cases h
        rw [charFault?_of_ne hc]
        constructor
        · rintro ⟨ht, hcs | ⟨_, hg, hgs⟩⟩
          · obtain ⟨rfl, rfl⟩ := hnil hcs
            exact Or.inr ⟨nofun, by simpa using ht, by simp⟩
          · exact Or.inr ⟨nofun, List.forall_mem_cons.2 ⟨ht, hg⟩, hgs⟩
        · rintro (h | ⟨_, hg, hgs⟩)
          · cases h
          · rw [List.forall_mem_cons] at hg
            exact ⟨hg.1, Or.inr ⟨fun _ => ⟨nofun, by simpa using hc⟩, hg.2, hgs⟩⟩

theorem isKebab_iff {title : List Char} :
    IsKebab title ↔ ∀ w ∈ Text.splitOn '-' title, IsWord w := by
  constructor
  · rintro ⟨words, hne, hwords, rfl⟩
    rw [Text.splitOn_join hne fun w hw => hyphen_not_mem_word (hwords w hw)]
    exact hwords
  · intro h
    exact ⟨_, Text.splitOn_ne_nil '-' title, h, (Text.join_splitOn '-' title).symm⟩

theorem titleFault?_eq_none_iff {title : List Char} : titleFault? title = none ↔ IsKebab title := by
  rw [isKebab_iff]
  cases title with
  | nil => simp [titleFault?, Text.splitOn, IsWord]
  | cons c cs =>
      obtain ⟨f, fs, h⟩ := List.exists_cons_of_ne_nil (Text.splitOn_ne_nil '-' (c :: cs))
      have hscan := faultFrom_eq_none_iff (p := none) h
      rw [h, List.forall_mem_cons]
      simpa [titleFault?, IsWord, and_assoc] using hscan

/-! ## Names -/

theorem leadingDigits_append {digits cs : List Char} (hd : ∀ c ∈ digits, c.isDigit = true) :
    leadingDigits (digits ++ '-' :: cs) = digits := by
  refine Text.takeWhile_append_of_head hd ?_
  intro c hc
  cases hc
  decide

theorem isName_iff {name : List Char} : IsName name ↔ leadingDigits name ≠ [] ∧ HasTitle name := by
  constructor
  · rintro ⟨digits, title, hne, hd, hkebab, rfl⟩
    have hlead : leadingDigits (digits ++ '-' :: title) = digits := leadingDigits_append hd
    simp only [HasTitle, hlead, if_neg hne]
    exact ⟨hne, title, hkebab, rfl⟩
  · rintro ⟨hne, h⟩
    rw [HasTitle, if_neg hne] at h
    obtain ⟨title, hkebab, hname⟩ := h
    exact ⟨leadingDigits name, title, hne, fun c hc => List.mem_takeWhile_imp hc, hkebab, hname⟩

theorem issueNumberMismatch_eq_none_iff {name : String} :
    issueNumberMismatch name = none ↔ leadingDigits name.toList ≠ [] := by
  simp only [issueNumberMismatch]
  split
  · simp_all
  · simp_all

theorem drop_leadingDigits_eq_iff {name title : List Char} :
    name.drop (leadingDigits name).length = '-' :: title ↔ name = leadingDigits name ++ '-' :: title := by
  have hsplit : leadingDigits name ++ name.drop (leadingDigits name).length = name :=
    List.prefix_iff_eq_append.1 (List.takeWhile_prefix _)
  constructor
  · intro h
    rw [← h, hsplit]
  · intro h
    exact List.append_cancel_left (hsplit.trans h)

theorem titleMismatch_eq_none_iff {name : String} :
    titleMismatch name = none ↔ HasTitle name.toList := by
  simp only [titleMismatch]
  by_cases hd : leadingDigits name.toList = []
  · simp [hd, HasTitle, titleFault?_eq_none_iff]
  · have hlength : (leadingDigits name.toList).length ≠ 0 := by simpa using hd
    have hdrop : name.toList.drop ((leadingDigits name.toList).length + 1) =
        (name.toList.drop (leadingDigits name.toList).length).drop 1 := by
      rw [List.drop_drop]
    simp only [HasTitle, if_neg hd, if_neg hlength, hdrop, ← drop_leadingDigits_eq_iff]
    cases hrest : name.toList.drop (leadingDigits name.toList).length with
    | nil => simp [hlength]
    | cons c title =>
        by_cases hc : c = '-'
        · subst hc
          simp [titleFault?_eq_none_iff]
        · simp [hlength, hc]

theorem leadingDigits_eq_nil_iff {name : List Char} :
    leadingDigits name = [] ↔ ∀ c, name.head? = some c → c.isDigit = false := by
  cases name with
  | nil => simp [leadingDigits]
  | cons c cs => cases hc : c.isDigit <;> simp [leadingDigits, hc]

/-! ## Verdicts -/

variable {s : Settings} {set : RuleSet}

theorem isExempt_branchParams (s : Settings) (name : String) :
    isExempt name s.branchParams = .ok (s.exemptBranches.any (Value.isText name)) := rfl

theorem checkIssueNumber_eq_ok_none_iff {name : String} :
    checkIssueNumber name s.branchParams = .ok none ↔
      Value.text name ∈ s.exemptBranches ∨ leadingDigits name.toList ≠ [] := by
  rw [checkIssueNumber, isExempt_branchParams, ← Value.any_isText_iff, ← issueNumberMismatch_eq_none_iff]
  cases s.exemptBranches.any (Value.isText name) <;> simp [Except.map]

theorem checkTitle_eq_ok_none_iff {name : String} :
    checkTitle name s.branchParams = .ok none ↔
      Value.text name ∈ s.exemptBranches ∨ HasTitle name.toList := by
  rw [checkTitle, isExempt_branchParams, ← Value.any_isText_iff, ← titleMismatch_eq_none_iff]
  cases s.exemptBranches.any (Value.isText name) <;> simp [Except.map]

theorem forall_branch_checks_iff {name : String} {schema : Schema} :
    (∀ m : Matcher, m.category ∈ (Request.branch name).categories →
      m.run (.branch name) (s.params schema m.category) = .ok none) ↔
    checkIssueNumber name s.branchParams = .ok none ∧ checkTitle name s.branchParams = .ok none := by
  constructor
  · intro h
    exact ⟨h .branchIssueNumber (List.mem_singleton_self _), h .branchTitle (List.mem_singleton_self _)⟩
  · rintro ⟨hnumber, htitle⟩ m hm
    cases m with
    | branchIssueNumber => exact hnumber
    | branchTitle => exact htitle
    | _ => exact absurd hm (by simp [Matcher.category, Request.categories])

/-- The verdict of the default rules on a branch name: nothing on an exempt name; on another one the two rules
report, each on its own, a missing issue number and a rest that is no title, so that a name passes exactly if it
has the form of branch names. -/
theorem validate_branch (h : defaultRuleSet s = .ok set) (name : String) :
    (Value.text name ∈ s.exemptBranches → (set.validate (.branch name)).diagnostics = []) ∧
      (Value.text name ∉ s.exemptBranches →
        ((set.validate (.branch name)).diagnostics = [] ↔ IsName name.toList) ∧
        ((set.validate (.branch name)).Reports "BranchName.MissingIssueNumber" ↔
          ∀ c, name.toList.head? = some c → c.isDigit = false) ∧
        ((set.validate (.branch name)).Reports "BranchName.InvalidTitleCasing" ↔ ¬HasTitle name.toList)) := by
  obtain ⟨schema, _, hrules⟩ := rules_of_defaultRuleSet h
  have hnil := RuleSet.validate_default_eq_nil_iff hrules (.branch name)
  rw [forall_branch_checks_iff, checkIssueNumber_eq_ok_none_iff, checkTitle_eq_ok_none_iff] at hnil
  have hcategory : Category.branchName ∈ (Request.branch name).categories := List.mem_singleton_self _
  refine ⟨fun hexempt => hnil.2 ⟨Or.inl hexempt, Or.inl hexempt⟩, fun hexempt => ⟨?_, ?_, ?_⟩⟩
  · simpa only [hexempt, false_or, isName_iff] using hnil
  · have hreports : (set.validate (.branch name)).Reports "BranchName.MissingIssueNumber" ↔
        _ ∧ checkIssueNumber name s.branchParams ≠ .ok none :=
      RuleSet.reports_default_iff hrules (m := .branchIssueNumber) (by decide) _
    rw [hreports, ne_eq, checkIssueNumber_eq_ok_none_iff, ← leadingDigits_eq_nil_iff]
    simp only [hexempt, false_or, not_not]
    exact and_iff_right hcategory
  · have hreports : (set.validate (.branch name)).Reports "BranchName.InvalidTitleCasing" ↔
        _ ∧ checkTitle name s.branchParams ≠ .ok none :=
      RuleSet.reports_default_iff hrules (m := .branchTitle) (by decide) _
    rw [hreports, ne_eq, checkTitle_eq_ok_none_iff]
    simp only [hexempt, false_or]
    exact and_iff_right hcategory

/-- Of these names the first is exempt, the second has the form, and the third has a capital letter. -/
theorem validate_branch_default : (RuleSet.default.validate (.branch "main")).diagnostics = [] ∧
    (RuleSet.default.validate (.branch "12-add-page")).diagnostics = [] ∧
    (RuleSet.default.validate (.branch "12-Add")).Reports "BranchName.InvalidTitleCasing" ∧
    ¬(RuleSet.default.validate (.branch "12-Add")).Reports "BranchName.MissingIssueNumber" := by
  have hmain : Value.text "main" ∈ Settings.default.exemptBranches := Value.any_isText_iff.1 (by decide)
  have hother (name : String) (hn : Settings.default.exemptBranches.any (Value.isText name) = false) :
      Value.text name ∉ Settings.default.exemptBranches := by
    rw [← Value.any_isText_iff, hn]
    exact Bool.false_ne_true
  have hname : IsName "12-add-page".toList :=
    isName_iff.2 ⟨by decide, titleMismatch_eq_none_iff.1 (by decide)⟩
  have htitle : ¬HasTitle "12-Add".toList := fun ht =>
    absurd (titleMismatch_eq_none_iff.2 ht) (by decide)
  obtain ⟨hpasses, _, _⟩ :=
    (validate_branch defaultRuleSet_default "12-add-page").2 (hother _ (by decide))
  obtain ⟨_, hnumber, hcasing⟩ := (validate_branch defaultRuleSet_default "12-Add").2 (hother _ (by decide))
  refine ⟨(validate_branch defaultRuleSet_default "main").1 hmain, hpasses.2 hname, hcasing.2 htitle, ?_⟩
  rw [hnumber]
  intro hdigit
  exact absurd (hdigit '1' (by decide)) (by decide)

end Conventions.Branch
