import Mathlib.Data.List.Forall2
import Conventions.Proofs.RuleEntry

/-!
# Rules after rule entries

The entries of a configuration leave the default rules in their places. Each field of a default rule is the last one
that an entry for it gives, and its parameters are its own ones with those of its entries laid over them, one entry
after the other. The entries for other rules add one rule each, in their order, which starts from the shared parameters of
its category, whatever the entries before it change.
-/

namespace Conventions

/-- A rule after entries: each field is the last one that an entry for this rule gives, and the parameters of these
entries lie over those of the rule. -/
def Rule.changedBy (r : Rule) (es : List RuleEntry) : Rule :=
  let own := es.filter fun e => e.id == r.id
  { r with
    severity := (lastGiven RuleEntry.severity own).getD r.severity
    enabled := (lastGiven RuleEntry.enabled own).getD r.enabled
    message := (lastGiven RuleEntry.message own).getD r.message
    description := (lastGiven RuleEntry.description own).getD r.description
    params := Entries.overlay r.params (own.flatMap RuleEntry.ownParams) }

/-- A rule is the one that an entry adds, given the shared parameters of each category. -/
structure RuleEntry.Adds (base : Category → Params) (e : RuleEntry) (r : Rule) : Prop where
  id : r.id = e.id
  matcher : ∃ m : Matcher, e.matcher = some (.text m.name) ∧ r.matcher = m.name ∧ r.category = m.category
  message : e.message = some r.message
  severity : r.severity = e.severity.getD .error
  enabled : r.enabled = e.enabled.getD true
  description : r.description = e.description.getD ""
  params : r.params = Entries.overlay (base r.category) e.ownParams

namespace Rule

variable {r : Rule} {es : List RuleEntry} {e : RuleEntry}

theorem changedBy_id : (r.changedBy es).id = r.id := rfl

theorem changedBy_nil : r.changedBy [] = r := rfl

theorem map_id_changedBy (rs : List Rule) : (rs.map fun r => r.changedBy es).map Rule.id = rs.map Rule.id := by
  rw [List.map_map]
  exact List.map_congr_left fun r _ => changedBy_id

theorem changedBy_snoc : r.changedBy (es ++ [e]) = if r.id = e.id then
    e.applyTo (r.changedBy es) (Entries.overlay (r.changedBy es).params e.ownParams) else r.changedBy es := by
  by_cases h : r.id = e.id
  · rw [if_pos h]
    simp [changedBy, RuleEntry.applyTo, List.filter_append, h, lastGiven_snoc, Option.getD_or,
      Entries.overlay_append]
  · rw [if_neg h]
    simp [changedBy, List.filter_append, Ne.symm h]

end Rule

/-! ## One entry -/

namespace RuleEntry

variable {e : RuleEntry} {r t : Rule} {base : Category → Params}

theorem matcher_of_matcher? {m : Matcher} (h : e.matcher? = some m) : e.matcher = some (.text m.name) := by
  unfold matcher? at h
  split at h
  · rename_i n hn
    have hname : m.name = n := by simpa using List.find?_some h
    rw [hn, hname]
    rfl
  · cases h

theorem readParams_of_mergeParams {ps qs : Params} (h : mergeParams e.context ps e.params = .ok qs) :
    e.readParams = .ok e.ownParams ∧ qs = Entries.overlay ps e.ownParams := by
  rw [mergeParams_eq] at h
  obtain ⟨own, hown, rfl⟩ := Except.map_eq_ok.1 h
  rw [ownParams_of_readParams hown]
  exact ⟨hown, rfl⟩

theorem adds_of_create (h : e.create base = .ok t) : e.readParams = .ok e.ownParams ∧ e.Adds base t := by
  obtain ⟨m, message, params, hm, hmessage, hparams, rfl⟩ := create_eq_ok h
  obtain ⟨hown, rfl⟩ := readParams_of_mergeParams hparams
  exact ⟨hown, rfl, ⟨m, matcher_of_matcher? hm, rfl, rfl⟩, hmessage, rfl, rfl, rfl, rfl⟩

/-- Of rules with distinct identifiers an entry changes the one that it is for, and no other. -/
theorem changeIn_eq_ok {rs ts : List Rule} (hd : (rs.map Rule.id).Nodup) (hmem : e.id ∈ rs.map Rule.id)
    (h : e.changeIn rs = .ok ts) : e.readParams = .ok e.ownParams ∧
      ts = rs.map fun r => if r.id = e.id then e.applyTo r (Entries.overlay r.params e.ownParams) else r := by
  induction rs generalizing ts with
  | nil => cases hmem
  | cons r rs ih =>
      rw [List.map_cons, List.nodup_cons] at hd
      rw [changeIn] at h
      by_cases hr : r.id = e.id
      · rw [if_pos hr] at h
        obtain ⟨t, ht, rfl⟩ := Except.map_eq_ok.1 h
        obtain ⟨params, hparams, rfl⟩ := change_eq_ok ht
        obtain ⟨hown, rfl⟩ := readParams_of_mergeParams hparams
        refine ⟨hown, ?_⟩
        rw [List.map_cons, if_pos hr, List.cons.injEq]
        refine ⟨rfl, ?_⟩
        have hothers : ∀ q ∈ rs, q.id ≠ e.id := fun q hq he => hd.1 (hr ▸ he ▸ List.mem_map_of_mem hq)
        rw [List.map_congr_left fun q hq => if_neg (hothers q hq), List.map_id']
      · rw [if_neg hr] at h
        obtain ⟨us, hus, rfl⟩ := Except.map_eq_ok.1 h
        have hmem' : e.id ∈ rs.map Rule.id := (List.mem_cons.1 hmem).resolve_left (Ne.symm hr)
        obtain ⟨hown, hrest⟩ := ih hd.2 hmem' hus
        exact ⟨hown, by rw [List.map_cons, if_neg hr, hrest]⟩

theorem map_id_of_adds {es : List RuleEntry} {rs : List Rule} (h : List.Forall₂ (Adds base) es rs) :
    rs.map Rule.id = es.map RuleEntry.id := by
  induction h with
  | nil => rfl
  | cons h _ ih => rw [List.map_cons, List.map_cons, h.id, ih]

end RuleEntry

/-! ## All entries -/

namespace RuleDrafts

variable {base : Category → Params} {defaults : List Rule} {es : List RuleEntry} {d c : RuleDrafts}

/-- The entries that are not for one of some rules. -/
def entriesForOthers (rs : List Rule) (es : List RuleEntry) : List RuleEntry :=
  es.filter fun e => !(rs.map Rule.id).contains e.id

theorem entriesForOthers_snoc {rs : List Rule} {e : RuleEntry} : entriesForOthers rs (es ++ [e]) =
    if (rs.map Rule.id).contains e.id = true then entriesForOthers rs es
    else entriesForOthers rs es ++ [e] := by
  unfold entriesForOthers
  rw [List.filter_append]
  split
  · rename_i hmem
    rw [List.filter_cons_of_neg (by simpa using hmem), List.filter_nil, List.append_nil]
  · rename_i hmem
    rw [List.filter_cons_of_pos (by simpa using hmem), List.filter_nil]

/-- What reading entries keeps: the default rules are changed by the entries so far, and the rules added so far are
those of the other entries. -/
structure Follows (base : Category → Params) (defaults : List Rule) (es : List RuleEntry) (d : RuleDrafts) :
    Prop where
  reads : ∀ e ∈ es, e.readParams = .ok e.ownParams
  changed : d.defaults = defaults.map fun r => r.changedBy es
  added : List.Forall₂ (RuleEntry.Adds base) (entriesForOthers defaults es) d.added

theorem follows_nil : Follows base defaults [] ⟨defaults, []⟩ :=
  ⟨List.forall_mem_nil _, by simp [Rule.changedBy_nil], .nil⟩

theorem Follows.map_id (hf : Follows base defaults es d) : d.defaults.map Rule.id = defaults.map Rule.id := by
  rw [hf.changed, Rule.map_id_changedBy]

theorem Follows.any_id (hf : Follows base defaults es d) (id : String) :
    (d.defaults.any fun r => r.id == id) = (defaults.map Rule.id).contains id := by
  rw [← hf.map_id, Bool.eq_iff_iff, List.contains_iff_mem]
  simp

theorem Follows.change (hd : (defaults.map Rule.id).Nodup) (hf : Follows base defaults es d) {e : RuleEntry}
    (hmem : (defaults.map Rule.id).contains e.id = true) {ts : List Rule}
    (h : e.changeIn d.defaults = .ok ts) : Follows base defaults (es ++ [e]) ⟨ts, d.added⟩ := by
  have hmem' : e.id ∈ d.defaults.map Rule.id := by
    rw [hf.map_id]
    exact List.contains_iff_mem.1 hmem
  obtain ⟨hown, rfl⟩ := RuleEntry.changeIn_eq_ok (hf.map_id ▸ hd) hmem' h
  refine ⟨List.forall_mem_append.2 ⟨hf.reads, List.forall_mem_singleton.2 hown⟩, ?_, ?_⟩
  · rw [hf.changed, List.map_map]
    refine List.map_congr_left fun r _ => ?_
    rw [Function.comp_apply, Rule.changedBy_id, Rule.changedBy_snoc]
  · rw [entriesForOthers_snoc, if_pos hmem]
    exact hf.added

theorem Follows.add (hf : Follows base defaults es d) {e : RuleEntry}
    (hmem : ¬(defaults.map Rule.id).contains e.id = true) {t : Rule} (h : e.create base = .ok t) :
    Follows base defaults (es ++ [e]) ⟨d.defaults, d.added ++ [t]⟩ := by
  obtain ⟨hown, hadds⟩ := RuleEntry.adds_of_create h
  refine ⟨List.forall_mem_append.2 ⟨hf.reads, List.forall_mem_singleton.2 hown⟩, ?_, ?_⟩
  · have hother : ∀ r ∈ defaults, r.id ≠ e.id :=
      fun r hr hid => hmem (List.contains_iff_mem.2 (hid ▸ List.mem_map_of_mem hr))
    rw [hf.changed]
    exact List.map_congr_left fun r hr => by rw [Rule.changedBy_snoc, if_neg (hother r hr)]
  · rw [entriesForOthers_snoc, if_neg hmem]
    exact List.rel_append hf.added (.cons hadds .nil)

theorem Follows.readEntry (hd : (defaults.map Rule.id).Nodup) (hf : Follows base defaults es d)
    {x : Value × Nat} (h : readEntry base d x = .ok c) :
    ∃ e : RuleEntry, e.IsReadFrom x.1 ∧ Follows base defaults (es ++ [e]) c := by
  obtain ⟨e, he, h⟩ := Except.bind_eq_ok.1 h
  refine ⟨e, RuleEntry.read_eq_ok_iff.1 he, ?_⟩
  rw [hf.any_id] at h
  split at h
  · rename_i hmem
    obtain ⟨ts, hts, h⟩ := Except.bind_eq_ok.1 h
    cases h
    exact hf.change hd hmem hts
  · rename_i hmem
    obtain ⟨t, ht, h⟩ := Except.bind_eq_ok.1 h
    cases h
    exact hf.add hmem ht

/-- The entries of a value: nothing counts as no entries. -/
def entryValues? : Option Value → Option (List Value)
  | none | some (.scalar .null) => some []
  | some (.list vs) => some vs
  | some _ => none

theorem readEntries_of_entryValues? {v : Option Value} {vs : List Value} (h : entryValues? v = some vs) :
    readEntries base defaults v =
      (vs.zipIdx.foldlM (RuleDrafts.readEntry base) ⟨defaults, []⟩).map fun d => d.defaults ++ d.added := by
  unfold entryValues? at h
  split at h <;> cases h
  · exact congrArg Except.ok (List.append_nil defaults).symm
  · exact congrArg Except.ok (List.append_nil defaults).symm
  · rfl

theorem readEntries_of_no_entries {v : Option Value} (h : entryValues? v = some []) :
    readEntries base defaults v = .ok defaults := by
  rw [readEntries_of_entryValues? h]
  exact congrArg Except.ok (List.append_nil defaults)

theorem exists_entryValues? {v : Option Value} {rs : List Rule} (h : readEntries base defaults v = .ok rs) :
    ∃ vs, entryValues? v = some vs := by
  unfold readEntries at h
  split at h
  · exact ⟨[], rfl⟩
  · exact ⟨[], rfl⟩
  · exact ⟨_, rfl⟩
  · cases h

/-- The rules that are read are the default ones as their entries change them, and one for each other entry. -/
theorem readEntries_eq_ok (hd : (defaults.map Rule.id).Nodup) {v : Option Value} {rs : List Rule}
    (h : readEntries base defaults v = .ok rs) : ∃ vs es added, entryValues? v = some vs ∧
      List.Forall₂ RuleEntry.IsReadFrom es vs ∧ Follows base defaults es ⟨defaults.map (·.changedBy es), added⟩ ∧
        rs = defaults.map (·.changedBy es) ++ added := by
  obtain ⟨vs, hvs⟩ := exists_entryValues? h
  rw [readEntries_of_entryValues? hvs] at h
  obtain ⟨d, hfold, rfl⟩ := Except.map_eq_ok.1 h
  -- Reading keeps, of the values so far, that they say what some entries say and that the drafts follow these entries.
  obtain ⟨es, hread, hf⟩ : ∃ es, List.Forall₂ RuleEntry.IsReadFrom es (vs.zipIdx.map Prod.fst) ∧
      Follows base defaults es d := by
    refine Except.foldlM_keeps_prefix (P := fun (done : List (Value × Nat)) d =>
      ∃ es, List.Forall₂ RuleEntry.IsReadFrom es (done.map Prod.fst) ∧ Follows base defaults es d)
      ?_ ⟨[], .nil, follows_nil⟩ hfold
    rintro done d x c ⟨es, hread, hf⟩ hstep
    obtain ⟨e, he, hf⟩ := hf.readEntry hd hstep
    refine ⟨es ++ [e], ?_, hf⟩
    rw [List.map_append]
    exact List.rel_append hread (.cons he .nil)
  rw [List.zipIdx_map_fst] at hread
  refine ⟨vs, es, d.added, hvs, hread, ⟨hf.reads, rfl, hf.added⟩, ?_⟩
  rw [hf.changed]

end RuleDrafts

/-! ## Configurations -/

namespace Config

variable {v : Value} {s : RuleSet} {ignore : List String}

theorem map_id_defaults_nodup (keep : Bool) (params : Category → Params) :
    ((if keep then rulesWith params else []).map Rule.id).Nodup := by
  cases keep with
  | false => exact List.nodup_nil
  | true =>
      rw [if_pos rfl, map_id_rulesWith]
      exact defaultDrafts_ids_nodup

/-- The rules of an accepted configuration follow its entries, from the default rules under its settings or none. -/
theorem follows_of_read (h : read v = .ok (s, ignore)) :
    ∃ data keep settings schema, sectionOf v = .ok data ∧ readExtends data = .ok keep ∧
      Settings.read data = .ok (settings, ignore) ∧ Schema.ofMapping settings.placement = .ok schema ∧
      ∃ vs es added, RuleDrafts.entryValues? (Value.field? data "rules") = some vs ∧
        List.Forall₂ RuleEntry.IsReadFrom es vs ∧
        let defaults := if keep then rulesWith (settings.params schema) else []
        RuleDrafts.Follows (settings.params schema) defaults es ⟨defaults.map (·.changedBy es), added⟩ ∧
          s.rules = defaults.map (·.changedBy es) ++ added := by
  obtain ⟨data, keep, settings, hdata, hkeep, hsettings, hrules⟩ := read_eq_ok h
  obtain ⟨schema, hschema, hrules⟩ := readRules_eq_ok hrules
  exact ⟨data, keep, settings, schema, hdata, hkeep, hsettings, hschema,
    RuleDrafts.readEntries_eq_ok (map_id_defaults_nodup keep _) hrules⟩

/-- The rules of an accepted configuration are the default rules under its settings, unless it drops them, in their
order and as the entries change them, and then one rule for each entry that names none of them. -/
theorem rules_of_read (h : read v = .ok (s, ignore)) :
    ∃ data keep settings schema, sectionOf v = .ok data ∧ readExtends data = .ok keep ∧
      Settings.read data = .ok (settings, ignore) ∧ Schema.ofMapping settings.placement = .ok schema ∧
      defaultRules settings = .ok (rulesWith (settings.params schema)) ∧
      ∃ vs es added, RuleDrafts.entryValues? (Value.field? data "rules") = some vs ∧
        List.Forall₂ RuleEntry.IsReadFrom es vs ∧ (∀ e ∈ es, e.readParams = .ok e.ownParams) ∧
        let defaults := if keep then rulesWith (settings.params schema) else []
        let others := RuleDrafts.entriesForOthers defaults es
        s.ids = defaults.map Rule.id ++ others.map RuleEntry.id ∧
          s.rules = defaults.map (·.changedBy es) ++ added ∧
          List.Forall₂ (RuleEntry.Adds (settings.params schema)) others added := by
  obtain ⟨data, keep, settings, schema, hdata, hkeep, hsettings, hschema, vs, es, added, hvs, hread, hf, hrules⟩ :=
    follows_of_read h
  refine ⟨data, keep, settings, schema, hdata, hkeep, hsettings, hschema, ?_, ?_⟩
  · rw [defaultRules, hschema]
    rfl
  refine ⟨vs, es, added, hvs, hread, hf.reads, ?_, hrules, hf.added⟩
  rw [RuleSet.ids, hrules, List.map_append, Rule.map_id_changedBy, RuleEntry.map_id_of_adds hf.added]

/-- A default rule that is changed twice, and between the changes a new rule with the same check. -/
def interleavedValues : List Value :=
  [.map [(.text "id", .text "Commit.UnknownType"), (.text "severity", .text "warning"),
     (.text "params", .map [(.text "types", .list [.text "core", .text "ui"])])],
   .map [(.text "id", .text "Commit.Area"), (.text "matcher", .text "commit_type"),
     (.text "message", .text "\x7bvalue\x7d is none of \x7bexpected\x7d")],
   .map [(.text "id", .text "Commit.UnknownType"), (.text "enabled", .bool false)]]

/-- The entry for the new rule. -/
def areaEntry : RuleEntry :=
  ⟨"Commit.Area", some (.text "commit_type"), none, none, some "\x7bvalue\x7d is none of \x7bexpected\x7d", none, none⟩

/-- What the values say. -/
def interleavedEntries : List RuleEntry :=
  [⟨"Commit.UnknownType", none, some .warning, none, none, none,
     some (.map [(.text "types", .list [.text "core", .text "ui"])])⟩,
   areaEntry, ⟨"Commit.UnknownType", none, none, some false, none, none, none⟩]

theorem forall₂_interleavedEntries : List.Forall₂ RuleEntry.IsReadFrom interleavedEntries interleavedValues := by
  refine .cons ?_ (.cons ?_ (.cons ?_ .nil)) <;> exact RuleEntry.read_eq_ok_iff.1 (rfl : RuleEntry.read 0 _ = _)

/-- The default rule is changed by both entries for it, and the new rule has the types that all rules about commits
share. -/
theorem rules_interleavedValues : ∃ s ignore, read (.map [(.text "rules", .list interleavedValues)]) = .ok (s, ignore) ∧
    s.ids = defaultDrafts.map RuleDraft.id ++ ["Commit.Area"] ∧
      (∃ r ∈ s.rules, r.id = "Commit.UnknownType" ∧ r.severity = .warning ∧ r.enabled = false) ∧
      ∃ r ∈ s.rules, r.id = "Commit.Area" ∧ r.params = Settings.default.commitParams := by
  have hsome : (read (.map [(.text "rules", .list interleavedValues)])).toOption.isSome = true := by decide +kernel
  cases hread : read (.map [(.text "rules", .list interleavedValues)]) with
  | error f => rw [hread] at hsome; cases hsome
  | ok x =>
      obtain ⟨s, ignore⟩ := x
      obtain ⟨data, keep, settings, schema, hdata, hkeep, hsettings, _, _, vs, es, added, hvs, hes, _, hids, hrules,
        hadded⟩ := rules_of_read hread
      cases hdata
      cases hkeep
      cases hvs
      have hdefault : Settings.read [(.text "rules", .list interleavedValues)] = .ok (.default, defaultIgnore) := rfl
      cases hdefault.symm.trans hsettings
      obtain rfl : es = interleavedEntries :=
        RuleEntry.leftUnique_isReadFrom.forall₂ hes forall₂_interleavedEntries
      have hothers : RuleDrafts.entriesForOthers (rulesWith (Settings.default.params schema)) interleavedEntries =
          [areaEntry] := by
        rw [RuleDrafts.entriesForOthers, map_id_rulesWith]
        rfl
      rw [if_pos rfl] at hids hrules hadded
      rw [hothers] at hids hadded
      obtain _ | ⟨hadds, ⟨⟩⟩ := hadded
      refine ⟨s, defaultIgnore, rfl, ?ids, ?changed, ?added⟩
      case ids =>
        rw [hids, map_id_rulesWith]
        rfl
      case changed =>
        obtain ⟨d, hd, hid⟩ : ∃ d ∈ defaultDrafts, d.id = "Commit.UnknownType" := List.mem_map.1 (by decide +kernel)
        have hr : (d.rule (Settings.default.params schema)).id = "Commit.UnknownType" := hid
        refine ⟨(d.rule (Settings.default.params schema)).changedBy interleavedEntries, ?_, hr, ?_⟩
        · rw [hrules]
          exact List.mem_append_left _ (List.mem_map_of_mem (List.mem_map_of_mem hd))
        · rw [Rule.changedBy, hr]
          exact ⟨rfl, rfl⟩
      case added =>
        obtain ⟨m, hm, _, hcategory⟩ := hadds.matcher
        have hname : "commit_type" = m.name := by simpa [areaEntry, Value.text] using hm
        have hmatcher : Matcher.ofName? "commit_type" = some m := hname ▸ Matcher.ofName?_name m
        cases hmatcher
        refine ⟨_, ?_, hadds.id, ?_⟩
        · rw [hrules]
          exact List.mem_append_right _ List.mem_cons_self
        · rw [hadds.params, hcategory]
          rfl

end Config

end Conventions
