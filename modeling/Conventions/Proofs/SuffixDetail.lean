import Mathlib.Data.List.DropRight
import Conventions.Proofs.NodeSuffix
import Conventions.Proofs.Text

/-!
# What the check of node names says

The report about a rejected node name is about the upper-case letters at its end, whatever their number. Such a run may
be a suffix of the table only if it is the whole name, because a suffix with something in front of it is accepted. So
the report is wrong about the table exactly for names that are themselves suffixes.
-/

namespace Conventions.NodeSuffix

/-- What the report says about a suffix. -/
def unknownSuffix (t : String) : String := "suffix '" ++ t ++ "' is not in the suffix table"

/-- What the report says about a name without a suffix. -/
def noSuffix : String := "no type suffix"

/-- Whether a run is the longest end of a name that consists of upper-case letters. -/
structure IsCapitalRun (name run : List Char) : Prop where
  ends : run <:+ name
  isUpper : ∀ c ∈ run, Text.isUpper c = true
  longest : ∀ t, t <:+ name → (∀ c ∈ t, Text.isUpper c = true) → t <:+ run

/-- Whether what is said about a rejected name is true: a suffix that is said to be unknown is the run of upper-case
letters at the end of the name and not in the table, and a name that is said to have no suffix does not end with an
upper-case letter. -/
structure IsTruthful (suffixes : List String) (name detail : String) : Prop where
  unknown : ∀ t, detail = unknownSuffix t → IsCapitalRun name.toList t.toList ∧ t ∉ suffixes
  none : detail = noSuffix → ∀ c, name.toList.getLast? = some c → Text.isUpper c = false

variable {name run t : List Char} {suffixes : List String}

/-! ## The upper-case letters at the end -/

theorem suffix_rtakeWhile {p : Char → Bool} (hsuffix : t <:+ name) (ht : ∀ c ∈ t, p c = true) :
    t <:+ name.rtakeWhile p := by
  induction name using List.reverseRecOn generalizing t with
  | nil => rwa [List.rtakeWhile_nil]
  | append_singleton name c ih =>
      rcases List.suffix_concat_iff.1 hsuffix with rfl | ⟨t, rfl, hfirst⟩
      · exact List.nil_suffix
      · rw [List.forall_mem_append, List.forall_mem_singleton] at ht
        obtain ⟨front, hfront⟩ := ih hfirst ht.1
        rw [List.rtakeWhile_concat_pos _ _ _ ht.2, ← hfront, List.append_assoc]
        exact List.suffix_append _ _

theorem isCapitalRun_capitals (name : List Char) : IsCapitalRun name (capitals name) where
  ends := List.rtakeWhile_suffix _ name
  isUpper := fun _ => List.mem_rtakeWhile_imp
  longest := fun _ => suffix_rtakeWhile

theorem capitals_eq_nil_iff : capitals name = [] ↔ ∀ c, name.getLast? = some c → Text.isUpper c = false := by
  have hnil : capitals name = [] ↔ ∀ hne : name ≠ [], ¬Text.isUpper (name.getLast hne) = true :=
    List.rtakeWhile_eq_nil_iff
  rw [hnil]
  cases name using List.reverseRecOn <;> simp

theorem capitals_eq_self (h : ∀ c ∈ name, Text.isUpper c = true) : capitals name = name :=
  List.rtakeWhile_eq_self_iff.2 h

/-! ## The details -/

theorem unknownSuffix_injective : Function.Injective unknownSuffix := by
  intro s t h
  have hlist := congrArg String.toList h
  simpa [unknownSuffix, String.toList_inj] using hlist

theorem unknownSuffix_ne_noSuffix (s : String) : unknownSuffix s ≠ noSuffix := by
  intro h
  have hlist := congrArg String.toList h
  simp [unknownSuffix, noSuffix] at hlist

theorem detail_mismatch (name : String) (texts : List String) : (mismatch name.toList texts).detail =
    if capitals name.toList = [] then noSuffix else unknownSuffix (String.ofList (capitals name.toList)) := by
  simp only [mismatch, List.isEmpty_iff]
  rfl

/-! ## Rejected names -/

theorem isUpper_of_isSuffix {s : String} (h : Rule.isSuffix s = true) : ∀ c ∈ s.toList, Text.isUpper c = true := by
  intro c hc
  have hupper : c.isUpper = true := List.all_eq_true.1 (Bool.and_eq_true _ _ |>.mp h).2 c hc
  have hascii : c.toNat < 128 := by
    have hbounds := Text.isUpper_iff.1 hupper
    omega
  rwa [Text.isUpper, if_pos hascii]

theorem ne_nil_of_isSuffix {s : String} (h : Rule.isSuffix s = true) : s.toList ≠ [] := by
  intro hnil
  have hlength := length_mem_of_isSuffix h
  rw [← String.length_toList, hnil] at hlength
  exact absurd hlength (by decide)

section Rejected

variable {name : String} (hsuffixes : ∀ s ∈ suffixes, Rule.isSuffix s = true)
  (hrejected : ¬∃ s ∈ suffixes, Ends s name.toList)

include hsuffixes hrejected

/-- The run at the end of a rejected name is a suffix only if there is nothing in front of it. -/
theorem capitals_mem_iff : String.ofList (capitals name.toList) ∈ suffixes ↔ name ∈ suffixes := by
  constructor
  · intro hmem
    obtain ⟨front, hfront⟩ := (isCapitalRun_capitals name.toList).ends
    cases front with
    | nil => rwa [← List.nil_append (capitals _), hfront, String.ofList_toList] at hmem
    | cons c front =>
        refine absurd ⟨_, hmem, c :: front, List.cons_ne_nil _ _, ?_⟩ hrejected
        rwa [String.toList_ofList]
  · intro hmem
    rwa [capitals_eq_self (isUpper_of_isSuffix (hsuffixes name hmem)), String.ofList_toList]

theorem isTruthful_mismatch_iff (texts : List String) :
    IsTruthful suffixes name (mismatch name.toList texts).detail ↔ name ∉ suffixes := by
  have hmem := capitals_mem_iff hsuffixes hrejected
  rw [detail_mismatch]
  constructor
  · intro htrue hname
    have hne : capitals name.toList ≠ [] := by
      rw [capitals_eq_self (isUpper_of_isSuffix (hsuffixes name hname))]
      exact ne_nil_of_isSuffix (hsuffixes name hname)
    rw [if_neg hne] at htrue
    exact (htrue.unknown _ rfl).2 (hmem.2 hname)
  · intro hname
    split
    · rename_i hnil
      exact ⟨fun t ht => absurd ht.symm (unknownSuffix_ne_noSuffix t), fun _ => capitals_eq_nil_iff.1 hnil⟩
    · refine ⟨fun t ht => ?_, fun h => absurd h (unknownSuffix_ne_noSuffix _)⟩
      rw [← unknownSuffix_injective ht, String.toList_ofList]
      exact ⟨isCapitalRun_capitals _, fun h => hname (hmem.1 h)⟩

end Rejected

/-- Under every accepted suffix table the check decides on every node name, and what it says about a rejected one is
about the upper-case letters at its end. It is true unless the name itself is a suffix of the table. -/
theorem isTruthful_iff_of_mem_rules {set : RuleSet} {r : Rule} (hr : r ∈ set.rules) (hc : r.category = .nodeSuffix) :
    ∃ suffixes, r.params.suffixTable.IsTableOf suffixes ∧ ∀ name,
      ∃ found, Matcher.nodeSuffix.run (.identifier name .nodeName) r.params = .ok found ∧ ∀ x, found = some x →
        (∃ run, IsCapitalRun name.toList run ∧
          x.detail = if run = [] then noSuffix else unknownSuffix (String.ofList run)) ∧
        (IsTruthful suffixes name x.detail ↔ name ∉ suffixes) := by
  obtain ⟨suffixes, htable, hsuffixes⟩ := exists_isTableOf (set.sound r hr) hc
  refine ⟨suffixes, htable, fun name => ?_⟩
  obtain ⟨found, hfound, hnone⟩ :=
    exists_check htable (fun s hs => length_mem_of_isSuffix (hsuffixes s hs)) name .nodeName
  refine ⟨found, hfound, ?_⟩
  rintro x rfl
  have hrejected : ¬∃ s ∈ suffixes, Ends s name.toList := by
    rw [imp_iff_right rfl] at hnone
    exact fun h => Option.some_ne_none x (hnone.2 h)
  obtain ⟨texts, rfl⟩ := eq_mismatch_of_check hfound
  exact ⟨⟨_, isCapitalRun_capitals _, detail_mismatch name texts⟩, isTruthful_mismatch_iff hsuffixes hrejected texts⟩

/-- A rule with one suffix. -/
def buttonRule : Rule where
  id := "Suffix"
  category := .nodeSuffix
  matcher := "node_suffix"
  message := "\x7bdetail\x7d"
  severity := .error
  description := ""
  params := [("suffixes", .value (.map [(.text "BTN", .text "Button")]))]
  enabled := true

/-- The rule set of the rule with one suffix. -/
def buttonRules : RuleSet := ⟨[buttonRule], by decide, by decide +kernel⟩

theorem isTruthful_buttonRule : ∃ suffixes x, buttonRule ∈ buttonRules.rules ∧ buttonRule.category = .nodeSuffix ∧
    buttonRule.params.suffixTable.IsTableOf suffixes ∧
    Matcher.nodeSuffix.run (.identifier "StartBUT" .nodeName) buttonRule.params = .ok (some x) ∧
      IsTruthful suffixes "StartBUT" x.detail := by
  have hr : buttonRule ∈ buttonRules.rules := List.mem_singleton_self buttonRule
  obtain ⟨suffixes, htable, hdetail⟩ := isTruthful_iff_of_mem_rules hr rfl
  obtain ⟨found, hfound, htrue⟩ := hdetail "StartBUT"
  have hname : "StartBUT" ∉ suffixes := by
    have hholds : buttonRule.params.suffixTable.holds "StartBUT" = .ok false := by decide
    simpa using (holds_of_isTableOf htable "StartBUT").symm.trans hholds
  have hrejected : (Matcher.nodeSuffix.run (.identifier "StartBUT" .nodeName) buttonRule.params).toOption.any
      Option.isSome = true := by
    decide +kernel
  obtain ⟨_, hrun, hsome⟩ := Except.exists_of_any_toOption hrejected
  cases hfound.symm.trans hrun
  obtain ⟨x, rfl⟩ := Option.isSome_iff_exists.1 hsome
  exact ⟨suffixes, x, hr, rfl, htable, hfound, (htrue x rfl).2.2 hname⟩

/-- A name that is itself a suffix is rejected as unknown. -/
theorem not_isTruthful_suffixAlone : ¬∀ (set : RuleSet) (r : Rule) (suffixes : List String) (name : String)
    (x : Mismatch), r ∈ set.rules → r.category = .nodeSuffix → r.params.suffixTable.IsTableOf suffixes →
      Matcher.nodeSuffix.run (.identifier name .nodeName) r.params = .ok (some x) →
      IsTruthful suffixes name x.detail := by
  intro htrue
  have hrejected : (Matcher.nodeSuffix.run (.identifier "BTN" .nodeName) buttonRule.params).toOption.any
      (fun found => found.any fun x => decide (x.detail = unknownSuffix "BTN")) = true := by
    decide +kernel
  obtain ⟨_, hrun, hsome⟩ := Except.exists_of_any_toOption hrejected
  obtain ⟨x, rfl, hdetail⟩ := (Option.any_eq_true _ _).1 hsome
  have htable : buttonRule.params.suffixTable.IsTableOf ["BTN"] := ⟨_, rfl, rfl⟩
  have hx := htrue buttonRules buttonRule _ "BTN" x (List.mem_singleton_self buttonRule) rfl htable hrun
  exact (hx.unknown "BTN" (of_decide_eq_true hdetail)).2 (List.mem_singleton_self "BTN")

end Conventions.NodeSuffix
