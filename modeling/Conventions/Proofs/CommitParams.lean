import Conventions.Proofs.RuleDrafts

/-!
# Parameters of commit rules

The section on commits refuses an empty list of types and switches that are no truth values, so the parameters that the
rules about commits share are always as it demands. A rule entry lays its own parameters over the shared ones: its types
are read as texts, but they may be none, and its switches are taken as they are. So a rule about commits has the
demanded parameters exactly if the values that count among those of its entries are as demanded.
-/

namespace Conventions

/-- The last value of a key among entries that may repeat it. -/
def Entries.last? {β : Type} (key : String) (es : List (String × β)) : Option β :=
  lastGiven (fun e => if e.1 = key then some e.2 else none) es

theorem Entries.mem_of_last? {β : Type} {key : String} {es : List (String × β)} {p : β}
    (h : last? key es = some p) : (key, p) ∈ es := by
  obtain ⟨e, he, hp⟩ := List.exists_of_findSome?_eq_some h
  rw [List.mem_reverse] at he
  split at hp
  · cases hp
    rename_i hkey
    rwa [← hkey]
  · cases hp

namespace Param

/-- Whether a parameter is a list of texts. -/
def IsTexts (p : Param) : Prop := ∃ ts : List String, p = .value (.list (ts.map .text))

/-- Whether a parameter is a list of texts with at least one of them. -/
def IsTypes (p : Param) : Prop := ∃ ts : List String, ts ≠ [] ∧ p = .value (.list (ts.map .text))

/-- Whether a parameter is a truth value. -/
def IsSwitch (p : Param) : Prop := ∃ b, p = .value (.bool b)

end Param

/-- What the section on commits demands of its values, key by key. -/
def commitDemands : List (String × (Param → Prop)) :=
  [("types", Param.IsTypes), ("require_space", Param.IsSwitch), ("allow_breaking", Param.IsSwitch),
   ("ignore_merges", Param.IsSwitch)]

namespace Params

variable {ps new : Params}

/-- Whether parameters are as the section on commits demands. -/
def MeetsCommitDemands (ps : Params) : Prop := ∀ d ∈ commitDemands, ∃ p, Entries.get? d.1 ps = some p ∧ d.2 p

theorem meetsCommitDemands_iff : ps.MeetsCommitDemands ↔
    (∃ p, Entries.get? "types" ps = some p ∧ p.IsTypes) ∧
      (∃ p, Entries.get? "require_space" ps = some p ∧ p.IsSwitch) ∧
        (∃ p, Entries.get? "allow_breaking" ps = some p ∧ p.IsSwitch) ∧
          ∃ p, Entries.get? "ignore_merges" ps = some p ∧ p.IsSwitch := by
  simp [MeetsCommitDemands, commitDemands]

/-- Of parameters that lie over demanded ones only the last value under each key matters. -/
theorem MeetsCommitDemands.overlay_iff (h : ps.MeetsCommitDemands) :
    MeetsCommitDemands (Entries.overlay ps new) ↔
      ∀ d ∈ commitDemands, ∀ p, Entries.last? d.1 new = some p → d.2 p := by
  refine forall₂_congr fun d hd => ?_
  rw [Entries.get?_overlay, ← Entries.last?]
  cases Entries.last? d.1 new with
  | none => simpa using h d hd
  | some p => simp

end Params

namespace Settings

/-- The settings that accepted sections give have the demanded parameters. -/
theorem IsTyped.commitParams {s : Settings} (h : s.IsTyped) : s.commitParams.MeetsCommitDemands := by
  obtain ⟨⟨ts, hts, htypes⟩, ⟨b, hspace⟩, ⟨c, hbreaking⟩, ⟨d, hmerges⟩, _⟩ := h
  rw [Params.meetsCommitDemands_iff, Settings.commitParams, htypes, hspace, hbreaking, hmerges]
  exact ⟨⟨_, rfl, ts, hts, rfl⟩, ⟨_, rfl, b, rfl⟩, ⟨_, rfl, c, rfl⟩, _, rfl, d, rfl⟩

end Settings

/-! ## Entries for a rule -/

namespace RuleEntry

/-- The parameters that entries give the rule of an identifier, one entry after the other. -/
def paramsFor (id : String) (es : List RuleEntry) : Params :=
  (es.filter fun e => e.id == id).flatMap RuleEntry.ownParams

end RuleEntry

namespace RuleDrafts

variable {base : Category → Params} {defaults : List Rule} {es : List RuleEntry} {d : RuleDrafts}

theorem paramsFor_entriesForOthers {id : String} (h : id ∉ defaults.map Rule.id) :
    RuleEntry.paramsFor id (entriesForOthers defaults es) = RuleEntry.paramsFor id es := by
  rw [RuleEntry.paramsFor, RuleEntry.paramsFor, entriesForOthers, List.filter_filter]
  congr 2
  funext e
  by_cases hid : e.id = id
  · simpa [hid] using h
  · simp [hid]

/-- The parameters of a rule that is added once are those of its only entry, on top of the shared ones. -/
theorem Follows.params_added (hf : Follows base defaults es d)
    (hd : (defaults.map Rule.id ++ d.added.map Rule.id).Nodup) {r : Rule} (hr : r ∈ d.added) :
    r.params = Entries.overlay (base r.category) (RuleEntry.paramsFor r.id es) := by
  obtain ⟨hnodup, hnew⟩ := (List.nodup_append.1 hd).2
  have hother : r.id ∉ defaults.map Rule.id := fun hid => hnew _ hid _ (List.mem_map_of_mem hr) rfl
  obtain ⟨e, he, hadds⟩ : ∃ e ∈ entriesForOthers defaults es, e.Adds base r := by
    obtain ⟨i, hi, rfl⟩ := List.mem_iff_getElem.1 hr
    have hlength := hf.added.length_eq
    exact ⟨_, List.getElem_mem (hlength ▸ hi), (List.forall₂_iff_get.1 hf.added).2 i (hlength ▸ hi) hi⟩
  rw [RuleEntry.map_id_of_adds hf.added] at hnodup
  rw [hadds.params, ← paramsFor_entriesForOthers hother, hadds.id, RuleEntry.paramsFor,
    filter_key_eq_of_nodup hnodup he, List.flatMap_singleton]

end RuleDrafts

/-! ## Configurations -/

namespace Config

variable {v : Value} {s : RuleSet} {ignore : List String}

/-- Every rule of an accepted configuration has the shared parameters of its category with those of its entries on
top. -/
theorem params_of_read (h : read v = .ok (s, ignore)) :
    ∃ data settings schema vs es, sectionOf v = .ok data ∧ Settings.read data = .ok (settings, ignore) ∧
      RuleDrafts.entryValues? (Value.field? data "rules") = some vs ∧ List.Forall₂ RuleEntry.IsReadFrom es vs ∧
      ∀ r ∈ s.rules,
        r.params = Entries.overlay (settings.params schema r.category) (RuleEntry.paramsFor r.id es) := by
  obtain ⟨data, keep, settings, schema, hdata, _, hsettings, _, vs, es, added, hvs, hread, hf, hrules⟩ :=
    follows_of_read h
  refine ⟨data, settings, schema, vs, es, hdata, hsettings, hvs, hread, ?_⟩
  -- The identifiers are distinct, so a rule that is added has one entry only, while a default rule may have several.
  have hd := s.distinct
  rw [hrules, List.map_append, Rule.map_id_changedBy] at hd
  intro r hr
  rw [hrules, List.mem_append] at hr
  rcases hr with hr | hr
  · obtain ⟨q, hq, rfl⟩ := List.mem_map.1 hr
    cases keep with
    | false => cases hq
    | true =>
        obtain ⟨draft, _, rfl⟩ := List.mem_map.1 hq
        rfl
  · exact hf.params_added hd hr

/-- The settings of an accepted configuration have the parameters that the section on commits demands. Its rules about
commits have texts as types, and they have the demanded parameters exactly if their entries give no others. -/
theorem meetsCommitDemands_iff_of_read (h : read v = .ok (s, ignore)) :
    ∃ data settings vs es, sectionOf v = .ok data ∧ Settings.read data = .ok (settings, ignore) ∧
      RuleDrafts.entryValues? (Value.field? data "rules") = some vs ∧ List.Forall₂ RuleEntry.IsReadFrom es vs ∧
      settings.commitParams.MeetsCommitDemands ∧ ∀ r ∈ s.rules, r.category = .commitMessage →
        (∃ p, Entries.get? "types" r.params = some p ∧ p.IsTexts) ∧
          (r.params.MeetsCommitDemands ↔
            ∀ d ∈ commitDemands, ∀ p, Entries.last? d.1 (RuleEntry.paramsFor r.id es) = some p → d.2 p) := by
  obtain ⟨data, settings, schema, vs, es, hdata, hsettings, hvs, hread, hparams⟩ := params_of_read h
  have hshared := (Settings.isTyped_of_read hsettings).commitParams
  refine ⟨data, settings, vs, es, hdata, hsettings, hvs, hread, hshared, ?_⟩
  intro r hr hcategory
  have hbase : (settings.params schema r.category).MeetsCommitDemands := by
    rw [hcategory]
    exact hshared
  constructor
  · obtain ⟨q, hq, _⟩ := (Params.meetsCommitDemands_iff.1 hbase).1
    obtain ⟨p, hp⟩ : ∃ p, Entries.get? "types" r.params = some p := by
      rw [hparams r hr, Entries.get?_overlay, hq]
      cases lastGiven _ (RuleEntry.paramsFor r.id es) with
      | none => exact ⟨q, rfl⟩
      | some p => exact ⟨p, rfl⟩
    exact ⟨p, hp, holdsTexts_of_read h r hr "types" (by decide) p hp⟩
  · rw [hparams r hr]
    exact hbase.overlay_iff

/-- Types and a switch of the section, and other types in the entry for the only rule. -/
def areaTypes : Value :=
  .map [(.text "extends", .text "none"),
    (.text "commit", .map [(.text "types", .list [.text "feat"]), (.text "require_space", .bool false)]),
    (.text "rules", .list [.map
      [(.text "id", .text "Commit.Area"), (.text "matcher", .text "commit_type"),
       (.text "message", .text "unknown area"),
       (.text "params", .map [(.text "types", .list [.text "core"])])]])]

theorem meetsCommitDemands_areaTypes : ∃ s ignore, read areaTypes = .ok (s, ignore) ∧
    "Commit.Area" ∈ s.ids ∧ ∀ r ∈ s.rules, r.category = .commitMessage → r.params.MeetsCommitDemands := by
  have haccepted : (read areaTypes).toOption.any (fun x => x.1.ids.contains "Commit.Area") = true := by
    decide +kernel
  obtain ⟨⟨s, ignore⟩, hread, hids⟩ := Except.exists_of_any_toOption haccepted
  obtain ⟨data, _, vs, es, hdata, _, hvs, hes, _, hrules⟩ := meetsCommitDemands_iff_of_read hread
  cases hdata
  cases hvs
  obtain ⟨e, _, he, hnil, rfl⟩ := List.forall₂_cons_right_iff.1 hes
  cases List.forall₂_nil_right_iff.1 hnil
  have hentry : e = ⟨"Commit.Area", some (.text "commit_type"), none, none, some "unknown area", none,
      some (.map [(.text "types", .list [.text "core"])])⟩ :=
    RuleEntry.leftUnique_isReadFrom he (RuleEntry.read_eq_ok_iff.1 (rfl : RuleEntry.read 0 _ = _))
  have hown : e.ownParams = [("types", .value (.list (["core"].map .text)))] := by
    rw [hentry]
    rfl
  refine ⟨s, ignore, hread, List.contains_iff_mem.1 hids, ?_⟩
  intro r hr hcategory
  refine (hrules r hr hcategory).2.2 ?_
  intro d hd p hp
  obtain ⟨f, hf, hp⟩ := List.mem_flatMap.1 (Entries.mem_of_last? hp)
  rw [List.mem_singleton.1 (List.mem_filter.1 hf).1, hown, List.mem_singleton, Prod.mk.injEq] at hp
  obtain ⟨hkey, rfl⟩ := hp
  simp only [commitDemands, List.mem_cons, List.not_mem_nil, or_false] at hd
  rcases hd with rfl | rfl | rfl | rfl
  case inl => exact ⟨["core"], List.cons_ne_nil _ _, rfl⟩
  all_goals exact absurd hkey (by decide)

/-- An entry that takes all types from its rule. -/
def noTypes : Value :=
  .map [(.text "extends", .text "none"),
    (.text "rules", .list [.map
      [(.text "id", .text "Commit.Area"), (.text "matcher", .text "commit_type"),
       (.text "message", .text "unknown area"),
       (.text "params", .map [(.text "types", .list [])])]])]

theorem not_meetsCommitDemands_noTypes : ¬∀ (v : Value) (s : RuleSet) (ignore : List String),
    read v = .ok (s, ignore) → ∀ r ∈ s.rules, r.category = .commitMessage → r.params.MeetsCommitDemands := by
  intro hmeets
  have haccepted : (read noTypes).toOption.any (fun x => x.1.rules.any fun r =>
      decide (r.category = .commitMessage) && !r.params.isOn "types") = true := by
    decide +kernel
  obtain ⟨⟨s, ignore⟩, hread, hany⟩ := Except.exists_of_any_toOption haccepted
  obtain ⟨r, hr, hfalse⟩ := List.any_eq_true.1 hany
  rw [Bool.and_eq_true, decide_eq_true_iff] at hfalse
  obtain ⟨p, hp, ts, hts, rfl⟩ := (Params.meetsCommitDemands_iff.1 (hmeets _ _ _ hread r hr hfalse.1)).1
  have htrue : (!(Value.list (ts.map .text)).isTrue) = true := by
    simpa [Params.isOn, hp] using hfalse.2
  simp [Value.isTrue, hts] at htrue

end Config

end Conventions
