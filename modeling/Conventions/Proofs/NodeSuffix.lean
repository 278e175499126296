import Mathlib.Data.List.Infix
import Conventions.Proofs.Matcher
import Conventions.Proofs.RuleSet

/-!
# The longest suffix of a node name

The split of a node name tries the lengths from four down to two. The tables of sound rules have suffixes of these
lengths only, so the split finds the longest suffix of the table that ends the name and leaves something in front of it,
if there is one.
-/

namespace Conventions

/-- Whether a parameter is a mapping whose keys are some suffixes, in order. -/
def Param.IsTableOf (table : Param) (suffixes : List String) : Prop :=
  ∃ entries, table = .value (.map entries) ∧ entries.map Prod.fst = suffixes.map Scalar.text

namespace NodeSuffix

/-- Whether a suffix ends a name and leaves something in front of it. -/
def Ends (suffix : String) (name : List Char) : Prop := ∃ stem, stem ≠ [] ∧ stem ++ suffix.toList = name

/-- Whether a name is a stem and the longest of some suffixes that leave a stem. -/
structure IsLongestSplit (suffixes : List String) (name stem suffix : List Char) : Prop where
  append : stem ++ suffix = name
  stem_ne_nil : stem ≠ []
  mem : String.ofList suffix ∈ suffixes
  longest : ∀ s ∈ suffixes, Ends s name → s.length ≤ suffix.length

variable {table : Param} {suffixes : List String} {name stem suffix : List Char} {n : Nat}

theorem ends_iff {s : String} :
    Ends s name ↔ s.length < name.length ∧ name.drop (name.length - s.length) = s.toList := by
  constructor
  · rintro ⟨stem, hstem, rfl⟩
    have hpos := List.length_pos_of_ne_nil hstem
    rw [List.length_append, String.length_toList]
    refine ⟨by omega, ?_⟩
    rw [Nat.add_sub_cancel, List.drop_left]
  · rintro ⟨hlt, hdrop⟩
    refine ⟨name.take (name.length - s.length), ?_, ?_⟩
    · rw [ne_eq, List.take_eq_nil_iff, not_or]
      exact ⟨by omega, List.ne_nil_of_length_pos (by omega)⟩
    · rw [← hdrop, List.take_append_drop]

/-! ## The lengths that are tried -/

/-- Whether the split of a name takes its end of a length. -/
def Takes (suffixes : List String) (name : List Char) (n : Nat) : Prop :=
  n < name.length ∧ String.ofList (name.drop (name.length - n)) ∈ suffixes

instance : DecidablePred (Takes suffixes name) := fun _ => inferInstanceAs (Decidable (_ ∧ _))

theorem takes_iff : Takes suffixes name n ↔ ∃ s ∈ suffixes, s.length = n ∧ Ends s name := by
  constructor
  · rintro ⟨hlt, hmem⟩
    have hlength : (String.ofList (name.drop (name.length - n))).length = n := by
      rw [String.length_ofList, List.length_drop]
      omega
    refine ⟨_, hmem, hlength, ends_iff.2 ?_⟩
    rw [hlength, String.toList_ofList]
    exact ⟨hlt, rfl⟩
  · rintro ⟨s, hs, rfl, hends⟩
    obtain ⟨hlt, hdrop⟩ := ends_iff.1 hends
    refine ⟨hlt, ?_⟩
    rw [hdrop, String.ofList_toList]
    exact hs

/-- A name in front of its end of a length, and that end. -/
def cut (name : List Char) (n : Nat) : List Char × List Char :=
  (name.take (name.length - n), name.drop (name.length - n))

theorem isLongestSplit_iff : IsLongestSplit suffixes name stem suffix ↔
    ∃ n, (Takes suffixes name n ∧ ∀ m, Takes suffixes name m → m ≤ n) ∧ cut name n = (stem, suffix) := by
  constructor
  · intro h
    obtain rfl := h.append
    have hpos := List.length_pos_of_ne_nil h.stem_ne_nil
    refine ⟨suffix.length, ⟨⟨by rw [List.length_append]; omega, ?_⟩, ?_⟩, ?_⟩
    · rw [List.length_append, Nat.add_sub_cancel, List.drop_left]
      exact h.mem
    · intro m hm
      obtain ⟨s, hs, rfl, hends⟩ := takes_iff.1 hm
      exact h.longest s hs hends
    · rw [cut, List.length_append, Nat.add_sub_cancel, List.take_left, List.drop_left]
  · rintro ⟨n, ⟨⟨hlt, hmem⟩, hgreatest⟩, hcut⟩
    cases hcut
    refine ⟨List.take_append_drop _ name, ?_, hmem, ?_⟩
    · refine List.ne_nil_of_length_pos ?_
      rw [List.length_take]
      omega
    · intro s hs hends
      have hle := hgreatest s.length (takes_iff.2 ⟨s, hs, rfl, hends⟩)
      rw [List.length_drop]
      omega

theorem holds_of_isTableOf (h : table.IsTableOf suffixes) (s : String) :
    table.holds s = .ok (decide (s ∈ suffixes)) := by
  obtain ⟨entries, rfl, hkeys⟩ := h
  have hmem : (∃ e ∈ entries, e.1 = .text s) ↔ s ∈ suffixes := by
    rw [← List.mem_map, hkeys, List.mem_map]
    simp
  have hany : (entries.any fun e => e.1 == .text s) = decide (s ∈ suffixes) := by
    rw [Bool.eq_iff_iff, decide_eq_true_iff, ← hmem]
    simp
  rw [Param.holds, Value.holds, Value.holds?, hany]

/-- The split takes the end of the first of the lengths that it can take. -/
theorem splitAt_eq (h : table.IsTableOf suffixes) (name : List Char) (ns : List Nat) :
    splitAt table name ns = .ok ((ns.find? fun n => Takes suffixes name n).map (cut name)) := by
  induction ns with
  | nil => rfl
  | cons n ns ih =>
      simp only [splitAt, List.find?_cons, holds_of_isTableOf h, ih]
      by_cases hlong : name.length ≤ n
      · have htakes : ¬Takes suffixes name n := fun ht => absurd ht.1 (Nat.not_lt.2 hlong)
        rw [if_pos hlong, decide_eq_false htakes]
      · by_cases hmem : String.ofList (name.drop (name.length - n)) ∈ suffixes
        · have htakes : Takes suffixes name n := ⟨Nat.lt_of_not_le hlong, hmem⟩
          rw [if_neg hlong, decide_eq_true hmem, decide_eq_true htakes]
          rfl
        · have htakes : ¬Takes suffixes name n := fun ht => hmem ht.2
          rw [if_neg hlong, decide_eq_false hmem, decide_eq_false htakes]

/-! ## The split -/

/-- Of numbers that fall, the first one with a property is the greatest one with it. -/
theorem le_of_find?_eq_some {p : Nat → Bool} {ns : List Nat} {m : Nat} (hfalls : ns.Pairwise (· > ·))
    (hn : ns.find? p = some n) (hm : m ∈ ns) (hpm : p m = true) : m ≤ n := by
  obtain ⟨_, front, back, rfl, hfront⟩ := List.find?_eq_some_iff_append.1 hn
  rcases List.mem_append.1 hm with hm | hm
  · have hnot := hfront m hm
    rw [hpm] at hnot
    cases hnot
  · rcases List.mem_cons.1 hm with rfl | hm
    · exact Nat.le_refl m
    · exact (List.rel_of_pairwise_cons (List.pairwise_append.1 hfalls).2.1 hm).le

theorem find?_eq_some_iff_greatest {p : Nat → Bool} {ns : List Nat} (hfalls : ns.Pairwise (· > ·))
    (hp : ∀ m, p m = true → m ∈ ns) : ns.find? p = some n ↔ p n = true ∧ ∀ m, p m = true → m ≤ n := by
  constructor
  · intro hn
    exact ⟨List.find?_some hn, fun m hm => le_of_find?_eq_some hfalls hn (hp m hm) hm⟩
  · rintro ⟨hpn, hgreatest⟩
    obtain ⟨m, hm⟩ := Option.isSome_iff_exists.1 (List.find?_isSome.2 ⟨n, hp n hpn, hpn⟩)
    have hle := le_of_find?_eq_some hfalls hm (hp n hpn) hpn
    rw [hm, Nat.le_antisymm hle (hgreatest m (List.find?_some hm))]

/-- The split of a name takes the greatest length that it can, as the table has suffixes of the lengths that are tried
only. -/
theorem exists_split (h : table.IsTableOf suffixes) (hlengths : ∀ s ∈ suffixes, s.length ∈ lengths)
    (name : List Char) : ∃ found, split table name = .ok found ∧
      (found.isSome ↔ ∃ s ∈ suffixes, Ends s name) ∧
      ∀ stem suffix, found = some (stem, suffix) ↔ IsLongestSplit suffixes name stem suffix := by
  -- No suffix has a length that is not tried, so the greatest of the tried lengths is the greatest of all.
  have htried (n : Nat) (hn : decide (Takes suffixes name n) = true) : n ∈ lengths := by
    obtain ⟨s, hs, rfl, _⟩ := takes_iff.1 (of_decide_eq_true hn)
    exact hlengths s hs
  refine ⟨_, splitAt_eq h name lengths, ?_, fun stem suffix => ?_⟩
  · rw [Option.isSome_map, List.find?_isSome]
    constructor
    · rintro ⟨n, _, htakes⟩
      obtain ⟨s, hs, _, hends⟩ := takes_iff.1 (of_decide_eq_true htakes)
      exact ⟨s, hs, hends⟩
    · rintro ⟨s, hs, hends⟩
      exact ⟨s.length, hlengths s hs, decide_eq_true (takes_iff.2 ⟨s, hs, rfl, hends⟩)⟩
  · rw [Option.map_eq_some_iff, isLongestSplit_iff]
    simp only [find?_eq_some_iff_greatest (by decide) htried, decide_eq_true_eq]

/-! ## The check of node names -/

theorem exists_check {ps : Params} (h : ps.suffixTable.IsTableOf suffixes)
    (hlengths : ∀ s ∈ suffixes, s.length ∈ lengths) (name : String) (kind : IdentifierKind) :
    ∃ found, check name kind ps = .ok found ∧
      (found = none ↔ (kind = .nodeName → ∃ s ∈ suffixes, Ends s name.toList)) := by
  have ⟨entries, htable, hkeys⟩ := h
  have htexts : ∀ e ∈ entries, ∃ s, e.1 = .text s := by
    intro e he
    have hmem : e.1 ∈ suffixes.map Scalar.text := hkeys ▸ List.mem_map_of_mem he
    obtain ⟨s, _, hs⟩ := List.mem_map.1 hmem
    exact ⟨s, hs.symm⟩
  obtain ⟨found, hfound⟩ := check_eq_ok htable htexts name kind
  refine ⟨found, hfound, ?_⟩
  unfold check at hfound
  split at hfound
  · rename_i hkind
    cases hfound
    simp [hkind]
  · rename_i hkind
    obtain ⟨cut?, hcut?, hsome, _⟩ := exists_split h hlengths name.toList
    obtain ⟨_, hsplit, hfound⟩ := Except.bind_eq_ok.1 hfound
    cases hcut?.symm.trans hsplit
    rw [imp_iff_right (not_not.1 hkind), ← hsome]
    cases cut? with
    | none =>
        obtain ⟨_, _, hfound⟩ := Except.bind_eq_ok.1 hfound
        obtain ⟨_, _, hfound⟩ := Except.bind_eq_ok.1 hfound
        cases hfound
        simp
    | some x =>
        cases hfound
        simp

theorem length_mem_of_isSuffix {s : String} (h : Rule.isSuffix s = true) : s.length ∈ lengths := by
  simp only [Rule.isSuffix, Bool.and_eq_true] at h
  obtain ⟨⟨hshort, hlong⟩, _⟩ := h
  have hbounds : 2 ≤ s.length ∧ s.length ≤ 4 := ⟨of_decide_eq_true hshort, of_decide_eq_true hlong⟩
  simp only [lengths, List.mem_cons, List.not_mem_nil, or_false]
  omega

/-- The table of a sound rule about node suffixes has suffixes as its keys. -/
theorem exists_isTableOf {r : Rule} (h : r.fault? = none) (hc : r.category = .nodeSuffix) :
    ∃ suffixes, r.params.suffixTable.IsTableOf suffixes ∧ ∀ s ∈ suffixes, Rule.isSuffix s = true := by
  obtain ⟨_, _, hparams⟩ := Rule.eq_none_of_fault? h
  rw [Rule.paramsFault?, hc] at hparams
  obtain ⟨entries, htable, hkeys⟩ := Rule.hasSuffixTable_of_suffixFault? hparams
  have hplain (e : Scalar × Value) (he : e ∈ entries) : e.1 = .text e.1.plain ∧ Rule.isSuffix e.1.plain = true := by
    obtain ⟨s, hs, hsuffix⟩ := hkeys e he
    rw [hs]
    exact ⟨rfl, hsuffix⟩
  refine ⟨entries.map fun e => e.1.plain, ⟨entries, htable, ?_⟩, ?_⟩
  · rw [List.map_map]
    exact List.map_congr_left fun e he => (hplain e he).1
  · rw [List.forall_mem_map]
    exact fun e he => (hplain e he).2

/-- Under every accepted suffix table a name is split exactly if a suffix of the table ends it and leaves something in
front of it, and then at the longest such suffix. So the check of node names reports nothing exactly if there is one, and
never reports anything about other identifiers. -/
theorem isLongestSplit_of_mem_rules {set : RuleSet} {r : Rule} (hr : r ∈ set.rules) (hc : r.category = .nodeSuffix) :
    ∃ suffixes, r.params.suffixTable.IsTableOf suffixes ∧
      (∀ name, ∃ found, split r.params.suffixTable name = .ok found ∧
        (found.isSome ↔ ∃ s ∈ suffixes, Ends s name) ∧
        ∀ stem suffix, found = some (stem, suffix) ↔ IsLongestSplit suffixes name stem suffix) ∧
      ∀ name kind, ∃ found, Matcher.nodeSuffix.run (.identifier name kind) r.params = .ok found ∧
        (found = none ↔ (kind = .nodeName → ∃ s ∈ suffixes, Ends s name.toList)) := by
  obtain ⟨suffixes, htable, hsuffixes⟩ := exists_isTableOf (set.sound r hr) hc
  have hlengths : ∀ s ∈ suffixes, s.length ∈ lengths := fun s hs => length_mem_of_isSuffix (hsuffixes s hs)
  exact ⟨suffixes, htable, exists_split htable hlengths, exists_check htable hlengths⟩

/-- A rule with two suffixes, one of which ends the other. -/
def nestedRule : Rule where
  id := "Suffix"
  category := .nodeSuffix
  matcher := "node_suffix"
  message := "\x7bdetail\x7d"
  severity := .error
  description := ""
  params := [("suffixes", .value (.map [(.text "LE", .text "LineEdit"), (.text "TLE", .text "Title")]))]
  enabled := true

/-- The longer suffix counts in `MainTLE`, the shorter one in `TLE`, of which the longer one leaves nothing. -/
theorem isLongestSplit_of_mem_rules_nested : ∃ set suffixes, RuleSet.ofRules [nestedRule] = .ok set ∧
    nestedRule ∈ set.rules ∧ nestedRule.category = .nodeSuffix ∧ nestedRule.params.suffixTable.IsTableOf suffixes ∧
    IsLongestSplit suffixes "MainTLE".toList "Main".toList "TLE".toList ∧
    IsLongestSplit suffixes "TLE".toList "T".toList "LE".toList ∧ ¬∃ s ∈ suffixes, Ends s "LE".toList := by
  have hd : ([nestedRule].map Rule.id).Nodup := by decide
  have hs : ∀ r ∈ [nestedRule], r.fault? = none := by decide +kernel
  have hset := RuleSet.ofRules_of_sound hd hs
  have hr : nestedRule ∈ (⟨[nestedRule], hd, hs⟩ : RuleSet).rules := List.mem_singleton_self nestedRule
  obtain ⟨suffixes, htable, hsplit, _⟩ := isLongestSplit_of_mem_rules hr rfl
  have hlong (name stem suffix : List Char)
      (h : split nestedRule.params.suffixTable name = .ok (some (stem, suffix))) :
      IsLongestSplit suffixes name stem suffix := by
    obtain ⟨found, hfound, _, hlongest⟩ := hsplit name
    exact (hlongest stem suffix).1 (Except.ok.inj (hfound.symm.trans h))
  refine ⟨_, suffixes, hset, hr, rfl, htable, hlong _ _ _ (by decide), hlong _ _ _ (by decide), ?_⟩
  obtain ⟨found, hfound, hsome, _⟩ := hsplit "LE".toList
  have hnone : split nestedRule.params.suffixTable "LE".toList = .ok none := by decide
  rw [← hsome, Except.ok.inj (hfound.symm.trans hnone)]
  exact Bool.false_ne_true

end NodeSuffix

end Conventions
