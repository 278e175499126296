import Conventions.Config
import Conventions.Proofs.Matcher
import Conventions.Proofs.Template
import Conventions.Proofs.Validation

/-!
# Rules of configurations

What reading a configuration keeps of the rules: every rule of an accepted configuration has lists of texts
where its check looks for names, whatever the settings and the rule entries say. So its check decides on
every request and its template can be filled in, and no verdict reports a failure of a rule.
-/

namespace Conventions

/-! ## Settings -/

namespace Settings

/-- The types of commits and the exempt branches are texts. -/
def HoldsTexts (s : Settings) : Prop :=
  (∃ ts : List String, s.commitTypes = ts.map .text) ∧
    ∃ ts : List String, s.exemptBranches = ts.map .text

/-- What sections that are accepted make of the settings about commits and branches. -/
structure IsTyped (s : Settings) : Prop where
  commitTypes : ∃ ts : List String, ts ≠ [] ∧ s.commitTypes = ts.map .text
  requireSpace : ∃ b, s.requireSpace = .bool b
  allowBreaking : ∃ b, s.allowBreaking = .bool b
  ignoreMerges : ∃ b, s.ignoreMerges = .bool b
  exemptBranches : ∃ ts : List String, s.exemptBranches = ts.map .text

theorem isTyped_default : Settings.default.IsTyped :=
  ⟨⟨Commit.defaultTypes, by decide, rfl⟩, ⟨true, rfl⟩, ⟨true, rfl⟩, ⟨true, rfl⟩, ⟨_, rfl⟩⟩

variable {data commit placement : Section} {s t : Settings}

theorem IsTyped.readCommitTypes (h : Settings.readCommitTypes commit s = .ok t) (hs : s.IsTyped) : t.IsTyped := by
  unfold Settings.readCommitTypes at h
  split at h
  · cases h; exact hs
  · obtain ⟨ts, _, h⟩ := Except.bind_eq_ok.1 h
    cases ts with
    | nil => cases h
    | cons w ts =>
        cases h
        exact { hs with commitTypes := ⟨w :: ts, List.cons_ne_nil _ _, rfl⟩ }

theorem readSwitch_eq_ok {key : String} {old v : Value} (h : readSwitch commit key old = .ok v)
    (hold : ∃ b, old = .bool b) : ∃ b, v = .bool b := by
  unfold readSwitch at h
  split at h
  · cases h; exact hold
  · obtain ⟨b, _, rfl⟩ := Except.map_eq_ok.1 h
    exact ⟨b, rfl⟩

theorem IsTyped.readCommit (h : Settings.readCommit data s = .ok t) (hs : s.IsTyped) : t.IsTyped := by
  obtain ⟨commit, _, h⟩ := Except.bind_eq_ok.1 h
  obtain ⟨u, hu, h⟩ := Except.bind_eq_ok.1 h
  obtain ⟨space, hspace, h⟩ := Except.bind_eq_ok.1 h
  obtain ⟨breaking, hbreaking, h⟩ := Except.bind_eq_ok.1 h
  obtain ⟨merges, hmerges, h⟩ := Except.bind_eq_ok.1 h
  cases h
  have hu := hs.readCommitTypes hu
  exact { hu with
    requireSpace := readSwitch_eq_ok hspace hu.requireSpace
    allowBreaking := readSwitch_eq_ok hbreaking hu.allowBreaking
    ignoreMerges := readSwitch_eq_ok hmerges hu.ignoreMerges }

theorem IsTyped.readBranch (h : Settings.readBranch data s = .ok t) (hs : s.IsTyped) : t.IsTyped := by
  obtain ⟨branch, _, h⟩ := Except.bind_eq_ok.1 h
  split at h
  · cases h; exact hs
  · obtain ⟨ts, _, h⟩ := Except.bind_eq_ok.1 h
    cases h
    exact { hs with exemptBranches := ⟨ts, rfl⟩ }

theorem IsTyped.readSuffixes (h : Settings.readSuffixes data s = .ok t) (hs : s.IsTyped) : t.IsTyped := by
  unfold Settings.readSuffixes at h
  split at h
  · cases h; exact hs
  · cases h; exact hs
  · split at h <;> cases h
    exact { hs with }

theorem IsTyped.readSchema (h : Settings.readSchema placement s = .ok t) (hs : s.IsTyped) : t.IsTyped := by
  unfold Settings.readSchema at h
  split at h
  · cases h; exact hs
  · obtain ⟨m, _, h⟩ := Except.bind_eq_ok.1 h
    cases h
    exact { hs with }
  · cases h

theorem isTyped_of_read {ignore : List String} (h : read data = .ok (s, ignore)) : s.IsTyped := by
  obtain ⟨t, ht, h⟩ := Except.bind_eq_ok.1 h
  obtain ⟨u, hu, h⟩ := Except.bind_eq_ok.1 h
  obtain ⟨v, hv, h⟩ := Except.bind_eq_ok.1 h
  obtain ⟨placement, _, h⟩ := Except.bind_eq_ok.1 h
  obtain ⟨w, hw, h⟩ := Except.bind_eq_ok.1 h
  obtain ⟨globs, _, h⟩ := Except.bind_eq_ok.1 h
  cases h
  exact (((isTyped_default.readCommit ht).readBranch hu).readSuffixes hv).readSchema hw

theorem IsTyped.holdsTexts (h : s.IsTyped) : s.HoldsTexts := by
  obtain ⟨ts, _, hts⟩ := h.commitTypes
  exact ⟨⟨ts, hts⟩, h.exemptBranches⟩

theorem HoldsTexts.params (h : s.HoldsTexts) (schema : Schema) (c : Category) :
    (s.params schema c).HoldsTexts := by
  obtain ⟨⟨ts, hts⟩, ⟨us, hus⟩⟩ := h
  intro name hn p hp
  have hname : name = "types" ∨ name = "exempt" := by simpa [RuleEntry.listParams] using hn
  rcases hname with rfl | rfl <;> cases c <;>
    simp [Settings.params, branchParams, commitParams, suffixParams, Entries.get?] at hp
  · exact ⟨ts, by rw [← hp, hts]⟩
  · exact ⟨us, by rw [← hp, hus]⟩

end Settings

/-! ## Rule entries -/

namespace RuleEntry

theorem letters_of_listParams : ∀ n ∈ listParams,
    n.toList.all Char.isAlpha = true ∧ n ∉ Scalar.plainWords := by decide

/-- Only a text has the name of a list of texts as its text. -/
theorem eq_text_of_listParams {k : Scalar} (h : k.plain ∈ listParams) : k = .text k.plain := by
  obtain ⟨hletters, hword⟩ := letters_of_listParams _ h
  rcases Scalar.text_or_word_of_letters (List.all_eq_true.1 hletters) with hk | hk
  · exact hk
  · exact absurd hk hword

theorem readParam_text {context name : String} {v : Value} (h : name ≠ "schema") :
    readParam context (.text name) v =
      if listParams.contains name then
        (v.readTexts (context ++ " params." ++ name)).map fun ts => .value (.list (ts.map .text))
      else .ok (.value v) := by
  unfold readParam
  split
  · rename_i heq
    cases heq
    exact absurd rfl h
  · rename_i heq _
    cases heq
    rfl
  · rename_i hkey _
    exact absurd rfl (hkey name)

theorem readParam_of_listParams {context : String} {k : Scalar} {v : Value} {p : Param}
    (h : readParam context k v = .ok p) (hk : k.plain ∈ listParams) :
    ∃ ts : List String, p = .value (.list (ts.map .text)) := by
  have htext := eq_text_of_listParams hk
  cases k with
  | text name =>
      have hname : listParams.contains name = true := List.contains_iff_mem.2 hk
      have hschema : name ≠ "schema" := by
        rintro rfl
        exact absurd hname (by decide)
      rw [readParam_text hschema, if_pos hname] at h
      obtain ⟨ts, _, rfl⟩ := Except.map_eq_ok.1 h
      exact ⟨ts, rfl⟩
  | _ => cases htext

theorem mergeParams_holdsTexts {context : String} {ps qs : Params} {v : Option Value}
    (h : mergeParams context ps v = .ok qs) (hps : ps.HoldsTexts) : qs.HoldsTexts := by
  unfold mergeParams at h
  split at h
  · cases h; exact hps
  · cases h; exact hps
  · refine Except.foldlM_keeps ?_ hps h
    intro rs e us hrs hstep name hn p hp
    obtain ⟨x, hx, hstep⟩ := Except.bind_eq_ok.1 hstep
    cases hstep
    by_cases hname : e.1.plain = name
    · subst hname
      rw [Entries.get?_set_self] at hp
      cases hp
      exact readParam_of_listParams hx hn
    · rw [Entries.get?_set_of_ne _ hname] at hp
      exact hrs name hn p hp
  · cases h

theorem change_eq_ok {e : RuleEntry} {r t : Rule} (h : e.change r = .ok t) :
    ∃ params, mergeParams e.context r.params e.params = .ok params ∧ t = e.applyTo r params := by
  unfold change at h
  split at h
  · cases h
  · obtain ⟨params, hparams, h⟩ := Except.bind_eq_ok.1 h
    cases h
    exact ⟨params, hparams, rfl⟩

theorem create_eq_ok {e : RuleEntry} {base : Category → Params} {t : Rule}
    (h : e.create base = .ok t) :
    ∃ m message params, e.matcher? = some m ∧ e.message = some message ∧
      mergeParams e.context (base m.category) e.params = .ok params ∧
      t = { id := e.id, category := m.category, matcher := m.name, message
            severity := e.severity.getD .error
            description := e.description.getD ""
            params
            enabled := e.enabled.getD true } := by
  unfold create at h
  split at h
  · cases h
  · cases h
  · rename_i m message hm hmessage
    obtain ⟨params, hparams, rfl⟩ := Except.map_eq_ok.1 h
    exact ⟨m, message, params, hm, hmessage, hparams, rfl⟩

theorem forall_changeIn {P : Rule → Prop} {e : RuleEntry}
    (hchange : ∀ r t, e.change r = .ok t → P r → P t) {rs ts : List Rule}
    (h : e.changeIn rs = .ok ts) (hrs : ∀ r ∈ rs, P r) : ∀ r ∈ ts, P r := by
  induction rs generalizing ts with
  | nil => cases h; exact hrs
  | cons a rs ih =>
      rw [List.forall_mem_cons] at hrs
      simp only [changeIn] at h
      split at h
      · obtain ⟨t, ht, rfl⟩ := Except.map_eq_ok.1 h
        exact List.forall_mem_cons.2 ⟨hchange a t ht hrs.1, hrs.2⟩
      · obtain ⟨us, hus, rfl⟩ := Except.map_eq_ok.1 h
        exact List.forall_mem_cons.2 ⟨hrs.1, ih hus hrs.2⟩

end RuleEntry

namespace RuleDrafts

variable {P : Rule → Prop} {base : Category → Params}

theorem forall_readEntry (hchange : ∀ e r t, RuleEntry.change e r = .ok t → P r → P t)
    (hcreate : ∀ e t, RuleEntry.create e base = .ok t → P t) {d c : RuleDrafts} {entry : Value × Nat}
    (h : readEntry base d entry = .ok c) (hd : ∀ r ∈ d.defaults ++ d.added, P r) :
    ∀ r ∈ c.defaults ++ c.added, P r := by
  rw [List.forall_mem_append] at hd ⊢
  obtain ⟨e, _, h⟩ := Except.bind_eq_ok.1 h
  split at h
  · obtain ⟨ts, hts, h⟩ := Except.bind_eq_ok.1 h
    cases h
    exact ⟨RuleEntry.forall_changeIn (hchange e) hts hd.1, hd.2⟩
  · obtain ⟨t, ht, h⟩ := Except.bind_eq_ok.1 h
    cases h
    refine ⟨hd.1, List.forall_mem_append.2 ⟨hd.2, ?_⟩⟩
    intro r hr
    rw [List.mem_singleton.1 hr]
    exact hcreate e t ht

/-- What changing a rule keeps and every new rule has, all rules have after the entries. -/
theorem forall_readEntries (hchange : ∀ e r t, RuleEntry.change e r = .ok t → P r → P t)
    (hcreate : ∀ e t, RuleEntry.create e base = .ok t → P t) {defaults rs : List Rule}
    {v : Option Value} (h : readEntries base defaults v = .ok rs) (hd : ∀ r ∈ defaults, P r) :
    ∀ r ∈ rs, P r := by
  unfold readEntries at h
  split at h
  · cases h; exact hd
  · cases h; exact hd
  · obtain ⟨c, hc, rfl⟩ := Except.map_eq_ok.1 h
    refine Except.foldlM_keeps (P := fun d => ∀ r ∈ d.defaults ++ d.added, P r) ?_ (by simpa using hd) hc
    intro d entry c hd hstep
    exact forall_readEntry hchange hcreate hstep hd
  · cases h

end RuleDrafts

/-! ## Configurations -/

namespace Config

variable {v : Value} {s : RuleSet} {ignore : List String}

theorem readRules_eq_ok {data : Section} {keep : Bool} {settings : Settings} {rs : List Rule}
    (h : readRules data keep settings = .ok rs) :
    ∃ schema, Schema.ofMapping settings.placement = .ok schema ∧
      RuleDrafts.readEntries (settings.params schema)
        (if keep then rulesWith (settings.params schema) else []) (Value.field? data "rules") = .ok rs := by
  unfold readRules at h
  split at h
  · cases h
  · exact ⟨_, ‹_›, h⟩

/-- A configuration is accepted if its version, its word `extends`, its sections and its rules are. -/
theorem read_eq_ok_iff : read v = .ok (s, ignore) ↔ ∃ data keep settings,
    sectionOf v = .ok data ∧
      checkVersion ((Value.field? data "version").getD (.scalar (.int 1))) = .ok () ∧
      readExtends data = .ok keep ∧ Settings.read data = .ok (settings, ignore) ∧
      readRules data keep settings = .ok s.rules := by
  constructor
  · intro h
    obtain ⟨data, hdata, h⟩ := Except.bind_eq_ok.1 h
    obtain ⟨_, hversion, h⟩ := Except.bind_eq_ok.1 h
    obtain ⟨keep, hkeep, h⟩ := Except.bind_eq_ok.1 h
    obtain ⟨⟨settings, globs⟩, hsettings, h⟩ := Except.bind_eq_ok.1 h
    obtain ⟨rs, hrs, h⟩ := Except.bind_eq_ok.1 h
    split at h
    · rename_i hset
      cases h
      rw [← RuleSet.rules_of_ofRules hset] at hrs
      exact ⟨data, keep, settings, hdata, hversion, hkeep, hsettings, hrs⟩
    · cases h
  · rintro ⟨data, keep, settings, hdata, hversion, hkeep, hsettings, hrs⟩
    refine Except.bind_eq_ok.2 ⟨data, hdata, ?_⟩
    refine Except.bind_eq_ok.2 ⟨(), hversion, ?_⟩
    refine Except.bind_eq_ok.2 ⟨keep, hkeep, ?_⟩
    refine Except.bind_eq_ok.2 ⟨(settings, ignore), hsettings, ?_⟩
    refine Except.bind_eq_ok.2 ⟨s.rules, hrs, ?_⟩
    rw [RuleSet.ofRules_of_sound s.distinct s.sound]
    rfl

/-- What is read from an accepted configuration. -/
theorem read_eq_ok (h : read v = .ok (s, ignore)) :
    ∃ data keep settings, sectionOf v = .ok data ∧ readExtends data = .ok keep ∧
      Settings.read data = .ok (settings, ignore) ∧ readRules data keep settings = .ok s.rules := by
  obtain ⟨data, keep, settings, hdata, _, hrest⟩ := read_eq_ok_iff.1 h
  exact ⟨data, keep, settings, hdata, hrest⟩

theorem holdsTexts_of_read (h : read v = .ok (s, ignore)) : ∀ r ∈ s.rules, r.params.HoldsTexts := by
  obtain ⟨data, keep, settings, _, _, hsettings, hrs⟩ := read_eq_ok h
  obtain ⟨schema, _, hrs⟩ := readRules_eq_ok hrs
  have hbase := (Settings.isTyped_of_read hsettings).holdsTexts.params schema
  refine RuleDrafts.forall_readEntries ?_ ?_ hrs ?_
  · intro e r t ht hr
    obtain ⟨params, hparams, rfl⟩ := RuleEntry.change_eq_ok ht
    exact RuleEntry.mergeParams_holdsTexts hparams hr
  · intro e t ht
    obtain ⟨m, _, params, _, _, hparams, rfl⟩ := RuleEntry.create_eq_ok ht
    exact RuleEntry.mergeParams_holdsTexts hparams (hbase m.category)
  · cases keep with
    | false => simp
    | true =>
        intro r hr
        obtain ⟨d, _, rfl⟩ := List.mem_map.1 hr
        exact hbase d.matcher.category

theorem exists_runNamed_of_read (h : read v = .ok (s, ignore)) (q : Request) {r : Rule} (hr : r ∈ s.rules) :
    ∃ o, Matcher.runNamed r.matcher q r.params = .ok o :=
  Rule.runNamed_eq_ok (s.sound r hr) (holdsTexts_of_read h r hr) q

theorem exists_render {r : Rule} (hr : r ∈ s.rules) (m : Mismatch) :
    ∃ message, r.render m = .ok message :=
  ⟨_, Rule.render_eq_ok (Rule.eq_none_of_fault? (s.sound r hr)).2.1 m⟩

theorem failureLog_of_read (h : read v = .ok (s, ignore)) (q : Request) {r : Rule} (hr : r ∈ s.rules) :
    RuleSet.failureLog r q = [] := by
  obtain ⟨o, ho⟩ := exists_runNamed_of_read h q hr
  simp only [RuleSet.failureLog, ho]
  cases o with
  | none => rfl
  | some m =>
      obtain ⟨message, hmessage⟩ := exists_render hr m
      simp only [hmessage]

/-- Under an accepted configuration no check and no template fails: every diagnostic has the severity of its
rule, and its message is the template of the rule filled in with what the check reports. -/
theorem validate_of_read (h : read v = .ok (s, ignore)) (q : Request) :
    (∀ d ∈ (s.validate q).diagnostics, ∃ r ∈ s.rules, r.serves q = true ∧ ∃ m message,
      Matcher.runNamed r.matcher q r.params = .ok (some m) ∧ r.render m = .ok message ∧
        d = ⟨r.id, r.severity, message, m.span⟩) ∧
      (∀ r ∈ s.rules, (∃ o, Matcher.runNamed r.matcher q r.params = .ok o) ∧
        ∀ m, ∃ message, r.render m = .ok message) ∧
      ∀ l ∈ s.validationLog q, l.level = .debug := by
  refine ⟨?_, fun r hr => ⟨exists_runNamed_of_read h q hr, exists_render hr⟩, ?_⟩
  · intro d hd
    rw [RuleSet.diagnostics_validate, RuleSet.mem_findings] at hd
    obtain ⟨r, hr, hd⟩ := hd
    obtain ⟨hmem, hserves⟩ := List.mem_filter.1 hr
    obtain ⟨o, ho⟩ := exists_runNamed_of_read h q hmem
    rw [Rule.evaluate_of_ok ho] at hd
    obtain ⟨m, rfl, rfl⟩ := Option.map_eq_some_iff.1 hd
    obtain ⟨message, hmessage⟩ := exists_render hmem m
    exact ⟨r, hmem, hserves, m, message, ho, hmessage, Rule.report_of_render hmessage⟩
  · intro l hl
    simp only [RuleSet.validationLog, List.mem_cons, List.mem_flatMap] at hl
    rcases hl with rfl | ⟨r, hr, hl⟩
    · rfl
    · rw [failureLog_of_read h q (List.mem_filter.1 hr).1] at hl
      cases hl

/-- A configuration with one directory and one rule, which takes its types from the rule entry. -/
def scopedTypes : Value :=
  .map [(.text "extends", .text "none"),
    (.text "placement", .map [(.text "schema", .map [(.text "assets", .list [.text "texture"])])]),
    (.text "rules", .list [.map
      [(.text "id", .text "Commit.Area"), (.text "matcher", .text "commit_type"),
       (.text "severity", .text "warning"), (.text "message", .text "\x7bvalue\x7d is none of \x7bexpected\x7d"),
       (.text "params", .map [(.text "types", .list [.text "core", .text "ui"])])]])]

theorem validate_scopedTypes : ∃ s ignore, read scopedTypes = .ok (s, ignore) ∧
    (∃ d ∈ (s.validate (.commit "fix: x")).diagnostics, d.ruleId = "Commit.Area" ∧ d.severity = .warning) ∧
      ∀ d ∈ (s.validate (.commit "fix: x")).diagnostics, ∃ r ∈ s.rules,
        r.serves (.commit "fix: x") = true ∧ ∃ m message,
          Matcher.runNamed r.matcher (.commit "fix: x") r.params = .ok (some m) ∧
            r.render m = .ok message ∧ d = ⟨r.id, r.severity, message, m.span⟩ := by
  have hsome : (read scopedTypes).toOption.any (fun x =>
      (RuleSet.findings (x.1.applicable (.commit "fix: x")) (.commit "fix: x")).any fun d =>
        d.ruleId = "Commit.Area" ∧ d.severity = .warning) = true := by
    decide +kernel
  cases hread : read scopedTypes with
  | error f => rw [hread] at hsome; cases hsome
  | ok x =>
      rw [hread] at hsome
      obtain ⟨d, hd, hid⟩ := List.any_eq_true.1 hsome
      rw [← RuleSet.diagnostics_validate] at hd
      exact ⟨x.1, x.2, rfl, ⟨d, hd, of_decide_eq_true hid⟩, (validate_of_read hread _).1⟩

end Config

end Conventions
