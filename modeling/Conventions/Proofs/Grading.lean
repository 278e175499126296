import Conventions.Proofs.Override
import Conventions.Proofs.RuleDrafts

/-!
# Entries that only grade rules

The rule entries of a configuration may switch default rules on and off and grade them anew, as changes of a rule set do.
Both give the same rules, as what a configuration says about everything else does not depend on its list of rules.
-/

namespace Conventions

/-! ## A mapping with a key set -/

theorem Scalar.same_text_iff {a : Scalar} {k : String} : a.same (.text k) = true ↔ a = .text k := by
  unfold same
  rw [Bool.or_eq_true, beq_iff_eq, beq_iff_eq, or_iff_left_iff_imp]
  intro h
  cases a with
  | text s =>
      simp only [compare?, Option.some.injEq] at h
      rw [Std.LawfulEqOrd.eq_of_compare h]
  | _ => simp [compare?, toInt?] at h

namespace Value

variable {k key : String} {v : Value} {es : Section}

theorem field?_setKey_self : field? (setKey (.text k) v es) k = some v := by
  induction es with
  | nil => simp [setKey, field?]
  | cons e es ih =>
      rw [setKey]
      by_cases h : e.1 = .text k
      · rw [if_pos (Scalar.same_text_iff.2 h)]
        simp [field?, h]
      · rw [if_neg (mt Scalar.same_text_iff.1 h)]
        simpa [field?, h] using ih

theorem field?_setKey_of_ne (h : key ≠ k) : field? (setKey (.text k) v es) key = field? es key := by
  induction es with
  | nil => simp [setKey, field?, Ne.symm h]
  | cons e es ih =>
      rw [setKey]
      by_cases he : e.1 = .text k
      · rw [if_pos (Scalar.same_text_iff.2 he)]
        simp [field?, he, Ne.symm h]
      · rw [if_neg (mt Scalar.same_text_iff.1 he)]
        by_cases hkey : e.1 = .text key
        · simp [field?, hkey]
        · simpa [field?, hkey] using ih

end Value

/-! ## What reading looks at -/

section Agreement

variable {data other : Section}

theorem Section.under_congr {key : String} (h : Value.field? data key = Value.field? other key) :
    data.under key = other.under key := by
  rw [under, under, h]

namespace Settings

theorem readCommit_congr (h : Value.field? data "commit" = Value.field? other "commit") (s : Settings) :
    readCommit data s = readCommit other s := by
  rw [readCommit, readCommit, Section.under_congr h]

theorem readBranch_congr (h : Value.field? data "branch" = Value.field? other "branch") (s : Settings) :
    readBranch data s = readBranch other s := by
  rw [readBranch, readBranch, Section.under_congr h]

theorem readSuffixes_congr (h : Value.field? data "suffixes" = Value.field? other "suffixes")
    (hextend : Value.field? data "extend_suffixes" = Value.field? other "extend_suffixes") (s : Settings) :
    readSuffixes data s = readSuffixes other s := by
  rw [readSuffixes, readSuffixes, extendsSuffixes, extendsSuffixes, h, hextend]

/-- The sections say the same in configurations that differ in their rules only. -/
theorem read_congr (h : ∀ key, key ≠ "rules" → Value.field? data key = Value.field? other key) :
    read data = read other := by
  have hcommit := readCommit_congr (h "commit" (by decide))
  have hbranch := readBranch_congr (h "branch" (by decide))
  have hsuffixes := readSuffixes_congr (h "suffixes" (by decide)) (h "extend_suffixes" (by decide))
  have hplacement := Section.under_congr (h "placement" (by decide))
  simp only [read, hcommit, hbranch, hsuffixes, hplacement]

end Settings

theorem Config.readExtends_congr (h : Value.field? data "extends" = Value.field? other "extends") :
    readExtends data = readExtends other := by
  rw [readExtends, readExtends, h]

end Agreement

/-! ## Entries as changes of a rule set -/

namespace RuleEntry

variable {e : RuleEntry} {r : Rule} {rs : List Rule} {es : List RuleEntry}

/-- An entry that gives nothing but a severity and a switch. -/
structure OnlyGrades (e : RuleEntry) : Prop where
  matcher : e.matcher = none
  message : e.message = none
  description : e.description = none
  params : e.params = none

/-- The severity and the switch of an entry as changes of a rule set. -/
def grades (e : RuleEntry) : RuleSet.Overrides where
  enabled := (e.enabled.map fun b => (e.id, b)).toList
  severities := (e.severity.map fun g => (e.id, g)).toList

theorem get?_enabled_grades (id : String) :
    Entries.get? id e.grades.enabled = if e.id = id then e.enabled else none := by
  cases h : e.enabled <;> simp [grades, Entries.get?, h]

theorem get?_severities_grades (id : String) :
    Entries.get? id e.grades.severities = if e.id = id then e.severity else none := by
  cases h : e.severity <;> simp [grades, Entries.get?, h]

theorem id_eq_of_mem_ids_grades {id : String} (h : id ∈ e.grades.ids) : e.id = id := by
  rw [RuleSet.Overrides.mem_ids_iff, get?_enabled_grades, get?_severities_grades] at h
  by_contra hne
  simp [hne] at h

theorem ownParams_of_onlyGrades (h : e.OnlyGrades) : e.ownParams = [] :=
  ownParams_of_readParams (by rw [readParams, h.params])

theorem grades_apply (h : e.OnlyGrades) : e.grades.apply r =
    if r.id = e.id then e.applyTo r (Entries.overlay r.params e.ownParams) else r := by
  rw [ownParams_of_onlyGrades h, RuleSet.Overrides.apply, get?_enabled_grades, get?_severities_grades]
  by_cases hid : e.id = r.id
  · simp [applyTo, Entries.overlay, h.message, h.description, hid]
  · simp [hid, Ne.symm hid]

theorem apply_eq_changedBy (hes : ∀ e ∈ es, e.OnlyGrades) {o : RuleSet.Overrides}
    (ho : o.IsMergeOf (es.map grades)) : o.apply r = r.changedBy es := by
  rw [ho.apply_eq_foldl, List.foldl_map]
  clear ho
  induction es using List.reverseRecOn with
  | nil => exact Rule.changedBy_nil.symm
  | append_singleton es e ih =>
      obtain ⟨hes, he⟩ := List.forall_mem_append.1 hes
      rw [List.foldl_append, ih hes, Rule.changedBy_snoc, List.foldl_cons, List.foldl_nil,
        grades_apply (List.forall_mem_singleton.1 he), Rule.changedBy_id]

theorem change_of_onlyGrades (h : e.OnlyGrades) : e.change r = .ok (e.applyTo r r.params) := by
  simp [change, mergeParams, h.matcher, h.params]

theorem exists_changeIn (h : e.OnlyGrades) (rs : List Rule) :
    ∃ ts, e.changeIn rs = .ok ts ∧ ts.map Rule.id = rs.map Rule.id := by
  induction rs with
  | nil => exact ⟨[], rfl, rfl⟩
  | cons r rs ih =>
      rw [changeIn]
      split
      · rw [change_of_onlyGrades h]
        exact ⟨_, rfl, rfl⟩
      · obtain ⟨ts, hts, hids⟩ := ih
        rw [hts]
        exact ⟨r :: ts, rfl, by rw [List.map_cons, List.map_cons, hids]⟩

theorem exists_isReadFrom {vs : List Value} (h : List.Forall₂ IsReadFrom es vs) {v : Value} (hv : v ∈ vs) :
    ∃ e ∈ es, e.IsReadFrom v := by
  induction h with
  | nil => cases hv
  | cons he _ ih =>
      rcases List.mem_cons.1 hv with rfl | hv
      · exact ⟨_, List.mem_cons_self, he⟩
      · obtain ⟨e, hmem, he⟩ := ih hv
        exact ⟨e, List.mem_cons_of_mem _ hmem, he⟩

end RuleEntry

namespace RuleDrafts

variable {base : Category → Params} {defaults : List Rule} {es : List RuleEntry} {vs : List Value}

theorem exists_readEntry {e : RuleEntry} (he : e.OnlyGrades) (hid : e.id ∈ defaults.map Rule.id)
    {x : Value × Nat} (hx : e.IsReadFrom x.1) {d : RuleDrafts} (hd : d.defaults.map Rule.id = defaults.map Rule.id) :
    ∃ c, readEntry base d x = .ok c ∧ c.defaults.map Rule.id = defaults.map Rule.id := by
  obtain ⟨ts, hts, hids⟩ := RuleEntry.exists_changeIn he d.defaults
  have hany : (d.defaults.any fun r => r.id == e.id) = true := by
    rw [← hd] at hid
    simpa using hid
  refine ⟨{ d with defaults := ts }, ?_, hids.trans hd⟩
  refine Except.bind_eq_ok.2 ⟨e, RuleEntry.read_eq_ok_iff.2 hx, ?_⟩
  rw [if_pos hany, hts]
  rfl

theorem readEntries_of_onlyGrades (hd : (defaults.map Rule.id).Nodup)
    (hread : List.Forall₂ RuleEntry.IsReadFrom es vs)
    (hes : ∀ e ∈ es, e.id ∈ defaults.map Rule.id ∧ e.OnlyGrades) :
    readEntries base defaults (some (.list vs)) = .ok (defaults.map (·.changedBy es)) := by
  obtain ⟨d, hfold⟩ : ∃ d, vs.zipIdx.foldlM (readEntry base) ⟨defaults, []⟩ = .ok d := by
    refine Except.exists_foldlM (P := fun d => d.defaults.map Rule.id = defaults.map Rule.id) ?_ rfl
    intro d x hx hids
    have hmem : x.1 ∈ vs := List.fst_mem_of_mem_zipIdx hx
    obtain ⟨e, he, hx⟩ := RuleEntry.exists_isReadFrom hread hmem
    exact exists_readEntry (hes e he).2 (hes e he).1 hx hids
  have hok : readEntries base defaults (some (.list vs)) = .ok (d.defaults ++ d.added) := by
    rw [readEntries, hfold]
    rfl
  obtain ⟨ws, fs, added, hws, hfs, hf, hrules⟩ := readEntries_eq_ok hd hok
  cases hws
  -- The entries that are read are the given ones, as a value says one entry at most.
  obtain rfl : fs = es := RuleEntry.leftUnique_isReadFrom.forall₂ hfs hread
  have hothers : entriesForOthers defaults fs = [] := by
    rw [entriesForOthers, List.filter_eq_nil_iff]
    intro e he
    simpa using (hes e he).1
  have hadded := hf.added
  rw [hothers] at hadded
  cases hadded
  rw [hok, hrules, List.append_nil]

end RuleDrafts

/-! ## Configurations -/

namespace RuleSet

variable {s : RuleSet} {es : List RuleEntry} {o : Overrides}

/-- Changes with the last switch and the last severity for each rule do to a rule set what the entries say. -/
theorem rules_override (hes : ∀ e ∈ es, e.OnlyGrades) (ho : o.IsMergeOf (es.map RuleEntry.grades)) :
    (s.override o).rules = s.rules.map (·.changedBy es) :=
  List.map_congr_left fun _ _ => RuleEntry.apply_eq_changedBy hes ho

theorem withOverrides_of_grades (hids : ∀ e ∈ es, e.id ∈ s.ids) (ho : o.IsMergeOf (es.map RuleEntry.grades)) :
    s.withOverrides o = .ok (s.override o) := by
  refine withOverrides_eq_ok_iff.2 ⟨Overrides.isKnownIn_iff.2 ?_, rfl⟩
  intro id hid
  obtain ⟨_, hgrades, hid⟩ := ho.mem_ids_iff.1 hid
  obtain ⟨e, he, rfl⟩ := List.mem_map.1 hgrades
  rw [← RuleEntry.id_eq_of_mem_ids_grades hid]
  exact hids e he

end RuleSet

namespace Config

variable {v : Value} {s : RuleSet} {ignore : List String} {data : Section} {es : List RuleEntry} {vs : List Value}

theorem rules_of_no_entries {settings : Settings}
    (hnone : RuleDrafts.entryValues? (Value.field? data "rules") = some [])
    (h : readRules data true settings = .ok s.rules) : ∃ schema,
      Schema.ofMapping settings.placement = .ok schema ∧ s.rules = rulesWith (settings.params schema) := by
  obtain ⟨schema, hschema, h⟩ := readRules_eq_ok h
  rw [if_pos rfl, RuleDrafts.readEntries_of_no_entries hnone] at h
  exact ⟨schema, hschema, (Except.ok.inj h).symm⟩

theorem readRules_setKey {settings : Settings} {schema : Schema}
    (hschema : Schema.ofMapping settings.placement = .ok schema)
    (hrules : s.rules = rulesWith (settings.params schema)) (hread : List.Forall₂ RuleEntry.IsReadFrom es vs)
    (hes : ∀ e ∈ es, e.id ∈ s.ids ∧ e.OnlyGrades) :
    readRules (Value.setKey (.text "rules") (.list vs) data) true settings = .ok (s.rules.map (·.changedBy es)) := by
  rw [readRules, hschema, Value.field?_setKey_self]
  dsimp only
  rw [if_pos rfl, ← hrules]
  exact RuleDrafts.readEntries_of_onlyGrades s.distinct hread hes

/-- Entries that only switch default rules on and off and grade them are accepted, and give the rule set that the
changes with the last switch and the last severity for each rule give. -/
theorem read_setKey_rules (h : read v = .ok (s, ignore))
    (hdata : sectionOf v = .ok data) (hkeep : readExtends data = .ok true)
    (hnone : RuleDrafts.entryValues? (Value.field? data "rules") = some [])
    (hread : List.Forall₂ RuleEntry.IsReadFrom es vs)
    (hes : ∀ e ∈ es, e.id ∈ defaultDrafts.map RuleDraft.id ∧ e.OnlyGrades) :
    ∃ t, read (.map (Value.setKey (.text "rules") (.list vs) data)) = .ok (t, ignore) ∧
      (∃ o : RuleSet.Overrides, o.IsMergeOf (es.map RuleEntry.grades)) ∧
      ∀ o : RuleSet.Overrides, o.IsMergeOf (es.map RuleEntry.grades) → s.withOverrides o = .ok t := by
  obtain ⟨_, keep, settings, hdata', hversion, hkeep', hsettings, hrules⟩ := read_eq_ok_iff.1 h
  cases hdata.symm.trans hdata'
  cases hkeep.symm.trans hkeep'
  obtain ⟨schema, hschema, hrules⟩ := rules_of_no_entries hnone hrules
  have hids : s.ids = defaultDrafts.map RuleDraft.id := by rw [RuleSet.ids, hrules, map_id_rulesWith]
  rw [← hids] at hes
  have hgrades : ∀ e ∈ es, e.OnlyGrades := fun e he => (hes e he).2
  have hmerge := RuleSet.Overrides.isMergeOf_merge (es.map RuleEntry.grades)
  have hagree (key : String) (hne : key ≠ "rules") :
      Value.field? (Value.setKey (.text "rules") (.list vs) data) key = Value.field? data key :=
    Value.field?_setKey_of_ne hne
  refine ⟨s.override (RuleSet.Overrides.merge (es.map RuleEntry.grades)), ?accepted, ⟨_, hmerge⟩, ?same⟩
  case accepted =>
    refine read_eq_ok_iff.2 ⟨_, true, settings, rfl, ?version, ?keep, ?sections, ?rules⟩
    case version => rwa [hagree "version" (by decide)]
    case keep => rwa [readExtends_congr (hagree "extends" (by decide))]
    case sections => rwa [Settings.read_congr hagree]
    case rules =>
      rw [RuleSet.rules_override hgrades hmerge]
      exact readRules_setKey hschema hrules hread hes
  case same =>
    intro o ho
    rw [RuleSet.withOverrides_of_grades (fun e he => (hes e he).1) ho]
    refine congrArg Except.ok (RuleSet.eq_of_rules_eq ?_)
    rw [RuleSet.rules_override hgrades ho, RuleSet.rules_override hgrades hmerge]

theorem read_empty : read (.map []) = .ok (.default, defaultIgnore) := by
  have hplacement : Settings.default.placement = placementValues defaultPlacement := rfl
  refine read_eq_ok_iff.2 ⟨[], true, .default, rfl, rfl, rfl, rfl, ?_⟩
  rw [readRules, hplacement, ofMapping_defaultPlacement]
  rfl

/-- A rule is switched off, another one is switched off, and the first rule is switched on as a warning. -/
def gradingValues : List Value :=
  [.map [(.text "id", .text "Commit.UnknownType"), (.text "enabled", .bool false)],
   .map [(.text "id", .text "Path.UnknownRoot"), (.text "enabled", .bool false)],
   .map [(.text "id", .text "Commit.UnknownType"), (.text "severity", .text "warning"),
     (.text "enabled", .bool true)]]

/-- What the entries say. -/
def gradingEntries : List RuleEntry :=
  [⟨"Commit.UnknownType", none, none, some false, none, none, none⟩,
   ⟨"Path.UnknownRoot", none, none, some false, none, none, none⟩,
   ⟨"Commit.UnknownType", none, some .warning, some true, none, none, none⟩]

theorem read_gradingValues : ∃ t, read (.map [(.text "rules", .list gradingValues)]) = .ok (t, defaultIgnore) ∧
    RuleSet.default.withOverrides ⟨[("Commit.UnknownType", true), ("Path.UnknownRoot", false)],
      [("Commit.UnknownType", .warning)]⟩ = .ok t := by
  have hread : List.Forall₂ RuleEntry.IsReadFrom gradingEntries gradingValues := by
    refine .cons ?_ (.cons ?_ (.cons ?_ .nil)) <;> exact RuleEntry.read_eq_ok_iff.1 (rfl : RuleEntry.read 0 _ = _)
  have hids : ∀ e ∈ gradingEntries, e.id ∈ defaultDrafts.map RuleDraft.id := by decide +kernel
  have hgrades : ∀ e ∈ gradingEntries, e.OnlyGrades := by
    intro e he
    simp only [gradingEntries, List.mem_cons, List.not_mem_nil, or_false] at he
    rcases he with rfl | rfl | rfl <;> exact ⟨rfl, rfl, rfl, rfl⟩
  obtain ⟨t, ht, _, hsame⟩ := read_setKey_rules read_empty rfl rfl rfl hread fun e he => ⟨hids e he, hgrades e he⟩
  refine ⟨t, ht, hsame _ ?_⟩
  constructor <;> intro id <;> by_cases hfirst : "Commit.UnknownType" = id <;>
    by_cases hsecond : "Path.UnknownRoot" = id <;>
    simp [gradingEntries, RuleEntry.get?_enabled_grades, RuleEntry.get?_severities_grades, Entries.get?,
      lastGiven_cons, lastGiven_nil, hfirst, hsecond]

end Config

end Conventions
