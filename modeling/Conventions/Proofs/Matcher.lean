import Conventions.Config.Entry
import Conventions.Proofs.Except
import Conventions.Proofs.Scalar

/-!
# Checks that always decide

A check decides on every request if its parameters have the right form: the lists of types and of exempt
branches hold texts, the suffix table is a mapping from suffixes, and the schema of the rules about places
is compiled. The last two are conditions of sound rules.
-/

namespace Conventions

/-! ## Texts among values -/

namespace Value

theorem isText_iff {v : Value} {s : String} : v.isText s = true ↔ v = text s := by
  cases v with
  | scalar k =>
      cases k with
      | text t => simpa [isText, text] using eq_comm
      | _ => simp [isText, text]
  | _ => simp [isText, text]

theorem any_isText_iff {vs : List Value} {s : String} : vs.any (isText s) = true ↔ text s ∈ vs := by
  simp [List.any_eq_true, isText_iff]

theorem exists_map_text {vs : List Value} (h : ∀ v ∈ vs, ∃ s, v = text s) :
    ∃ ss : List String, vs = ss.map text := by
  induction vs with
  | nil => exact ⟨[], rfl⟩
  | cons v vs ih =>
      obtain ⟨s, rfl⟩ := h v (by simp)
      obtain ⟨ss, rfl⟩ := ih fun w hw => h w (by simp [hw])
      exact ⟨s :: ss, rfl⟩

theorem firstIncomparable_map_text (ss : List String) : firstIncomparable (ss.map text) = none := by
  induction ss with
  | nil => rfl
  | cons s ss ih =>
      cases ss with
      | nil => rfl
      | cons t ss => exact ih

theorem sortedTexts_eq_ok {vs : List Value} (h : ∀ v ∈ vs, ∃ s, v = text s) :
    ∃ ss, sortedTexts vs = .ok ss := by
  obtain ⟨ss, rfl⟩ := exists_map_text h
  have hsort : ∀ v ∈ (ss.map text).mergeSort (fun v w => v.compare? w ≠ some .gt), ∃ s, v = text s :=
    fun v hv => h v (List.mem_mergeSort.1 hv)
  obtain ⟨ts, hts⟩ := exists_map_text hsort
  exact ⟨Text.sorted ts, by
    simp only [sortedTexts, firstIncomparable_map_text, hts, texts_map_text, Except.map]⟩

end Value

/-! ## Parameters -/

namespace Params

/-- The parameters that stand for lists of names are lists of texts where they are given. -/
def HoldsTexts (ps : Params) : Prop :=
  ∀ name ∈ RuleEntry.listParams, ∀ p, Entries.get? name ps = some p →
    ∃ ts : List String, p = .value (.list (ts.map .text))

theorem HoldsTexts.listOr {ps : Params} (h : ps.HoldsTexts) {name : String}
    (hn : name ∈ RuleEntry.listParams) (ts : List String) :
    ∃ us : List String, ps.listOr name ts = .value (.list (us.map .text)) := by
  cases hp : Entries.get? name ps with
  | none => exact ⟨ts, by simp [Params.listOr, valueOr, hp]⟩
  | some p =>
      obtain ⟨us, rfl⟩ := h name hn p hp
      exact ⟨us, by simp [Params.listOr, valueOr, hp]⟩

end Params

/-! ## The checks one by one -/

theorem Branch.isExempt_eq_ok {ps : Params} (h : ps.HoldsTexts) (name : String) :
    ∃ b, isExempt name ps = .ok b := by
  obtain ⟨us, hus⟩ := h.listOr (by decide : "exempt" ∈ RuleEntry.listParams) defaultExempt
  exact ⟨_, by simp only [isExempt, hus]; rfl⟩

theorem Commit.checkType_eq_ok {ps : Params} (h : ps.HoldsTexts) (message : String) :
    ∃ m, checkType message ps = .ok m := by
  obtain ⟨us, hus⟩ := h.listOr (by decide : "types" ∈ RuleEntry.listParams) defaultTypes
  simp only [checkType, hus]
  split
  · exact ⟨_, rfl⟩
  · rename_i h _
    show ∃ m, typeMismatch h (us.map .text) = .ok m
    simp only [typeMismatch, Value.texts_map_text]
    split
    · exact ⟨_, rfl⟩
    · exact ⟨_, rfl⟩

namespace NodeSuffix

theorem splitAt_eq_ok (es : List (Scalar × Value)) (name : List Char) (ns : List Nat) :
    ∃ o, splitAt (.value (.map es)) name ns = .ok o := by
  induction ns with
  | nil => exact ⟨none, rfl⟩
  | cons n ns ih =>
      simp only [splitAt]
      split
      · exact ih
      · simp only [Param.holds, Value.holds, Value.holds?]
        split
        · contradiction
        · exact ⟨_, rfl⟩
        · exact ih

theorem check_eq_ok {ps : Params} {es : List (Scalar × Value)}
    (hes : ps.suffixTable = .value (.map es)) (ht : ∀ e ∈ es, ∃ s, e.1 = .text s)
    (name : String) (kind : IdentifierKind) : ∃ m, check name kind ps = .ok m := by
  unfold check
  split
  · exact ⟨_, rfl⟩
  · obtain ⟨o, ho⟩ := splitAt_eq_ok es name.toList lengths
    have hkeys : ∀ v ∈ es.map fun e => Value.scalar e.1, ∃ s, v = Value.text s := by
      intro v hv
      obtain ⟨e, he, rfl⟩ := List.mem_map.1 hv
      obtain ⟨s, hs⟩ := ht e he
      exact ⟨s, congrArg Value.scalar hs⟩
    obtain ⟨ss, hss⟩ := Value.sortedTexts_eq_ok hkeys
    simp only [hes, split, ho, bind, Except.bind]
    cases o with
    | none => exact ⟨_, by simp only [Param.items, Value.items, Value.items?, hss]; rfl⟩
    | some x => exact ⟨_, rfl⟩

theorem eq_mismatch_of_check {name : String} {kind : IdentifierKind} {ps : Params} {x : Mismatch}
    (h : check name kind ps = .ok (some x)) : ∃ suffixes, x = mismatch name.toList suffixes := by
  unfold check at h
  split at h
  · cases h
  · obtain ⟨found, _, h⟩ := Except.bind_eq_ok.1 h
    split at h
    · cases h
    · obtain ⟨items, _, h⟩ := Except.bind_eq_ok.1 h
      obtain ⟨suffixes, _, h⟩ := Except.bind_eq_ok.1 h
      cases h
      exact ⟨suffixes, rfl⟩

end NodeSuffix

theorem Place.schemaOf_eq_ok_iff {ps : Params} {s : Schema} : schemaOf ps = .ok s ↔ ps.schema? = some s := by
  unfold schemaOf
  split <;> simp [*]

/-! ## Sound rules -/

/-- A suffix table: a mapping whose keys are suffixes. -/
def Params.HasSuffixTable (ps : Params) : Prop :=
  ∃ es : List (Scalar × Value), ps.suffixTable = .value (.map es) ∧
    ∀ e ∈ es, ∃ s, e.1 = .text s ∧ Rule.isSuffix s = true

theorem Matcher.run_eq_ok {m : Matcher} {ps : Params} (h : ps.HoldsTexts)
    (hsuffix : m.category = .nodeSuffix → ps.HasSuffixTable)
    (hschema : m.category = .directoryPlacement → ps.schema?.isSome) (q : Request) :
    ∃ o, m.run q ps = .ok o := by
  unfold run
  split
  · rename_i n
    obtain ⟨b, hb⟩ := Branch.isExempt_eq_ok h n
    exact ⟨_, by rw [Branch.checkIssueNumber, hb]; rfl⟩
  · rename_i n
    obtain ⟨b, hb⟩ := Branch.isExempt_eq_ok h n
    exact ⟨_, by rw [Branch.checkTitle, hb]; rfl⟩
  · exact ⟨_, rfl⟩
  · exact Commit.checkType_eq_ok h _
  · exact ⟨_, rfl⟩
  · exact ⟨_, rfl⟩
  · exact ⟨_, rfl⟩
  · exact ⟨_, rfl⟩
  · obtain ⟨es, hes, ht⟩ := hsuffix rfl
    exact NodeSuffix.check_eq_ok hes (fun e he => (ht e he).imp fun _ hs => hs.1) _ _
  · obtain ⟨s, hs⟩ := Option.isSome_iff_exists.1 (hschema rfl)
    exact ⟨_, by rw [Place.checkRoot, Place.schemaOf_eq_ok_iff.2 hs]; rfl⟩
  · obtain ⟨s, hs⟩ := Option.isSome_iff_exists.1 (hschema rfl)
    exact ⟨_, by rw [Place.checkKind, Place.schemaOf_eq_ok_iff.2 hs]; rfl⟩
  · exact ⟨_, rfl⟩
  · exact ⟨_, rfl⟩

namespace Rule

theorem eq_none_of_fault? {r : Rule} (h : r.fault? = none) :
    r.matcherFault? = none ∧ r.templateFault? = none ∧ r.paramsFault? = none := by
  simpa [fault?, Option.or_eq_none_iff] using h

theorem matcher_of_matcherFault? {r : Rule} (h : r.matcherFault? = none) :
    ∃ m, Matcher.ofName? r.matcher = some m ∧ m.category = r.category := by
  unfold matcherFault? at h
  split at h
  · cases h
  · rename_i m hm
    split at h
    · exact ⟨m, hm, ‹_›⟩
    · cases h

theorem not_isSuffix_of_plainWords : ∀ w ∈ Scalar.plainWords, isSuffix w = false := by decide

/-- A scalar whose text is a suffix is a text. -/
theorem eq_text_of_isSuffix {s : Scalar} (h : isSuffix s.plain = true) : s = .text s.plain := by
  have hletters : ∀ c ∈ s.plain.toList, c.isAlpha = true := by
    intro c hc
    simp only [isSuffix, Bool.and_eq_true, List.all_eq_true] at h
    show (c.isUpper || c.isLower) = true
    rw [h.2 c hc, Bool.true_or]
  rcases Scalar.text_or_word_of_letters hletters with hs | hs
  · exact hs
  · rw [not_isSuffix_of_plainWords _ hs] at h; cases h

theorem hasSuffixTable_of_suffixFault? {r : Rule} (h : r.suffixFault? = none) :
    r.params.HasSuffixTable := by
  unfold suffixFault? at h
  split at h
  · rename_i es hes
    refine ⟨es, hes, fun e he => ?_⟩
    rw [Option.map_eq_none_iff, List.find?_eq_none] at h
    have hsuffix : isSuffix e.1.plain = true := by
      simpa using h e.1.plain (List.mem_map_of_mem he)
    exact ⟨_, eq_text_of_isSuffix hsuffix, hsuffix⟩
  · cases h

/-- The check of a sound rule whose lists of names are texts decides on every request. -/
theorem runNamed_eq_ok {r : Rule} (h : r.fault? = none) (ht : r.params.HoldsTexts) (q : Request) :
    ∃ o, Matcher.runNamed r.matcher q r.params = .ok o := by
  obtain ⟨hmatcher, _, hparams⟩ := eq_none_of_fault? h
  obtain ⟨m, hm, hc⟩ := matcher_of_matcherFault? hmatcher
  simp only [Matcher.runNamed, hm]
  refine Matcher.run_eq_ok ht ?_ ?_ q
  · intro hn
    rw [hc] at hn
    simp only [paramsFault?, hn] at hparams
    exact hasSuffixTable_of_suffixFault? hparams
  · intro hd
    rw [hc] at hd
    simp only [paramsFault?, hd] at hparams
    split at hparams
    · assumption
    · cases hparams

end Rule

end Conventions
