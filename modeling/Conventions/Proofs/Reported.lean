import Conventions.Config
import Conventions.Proofs.Matcher

/-!
# Reported faults

Reading a value of a configuration gives a result or a fault with a message, with three exceptions: keys that cannot
be put in order, which text keys exclude; kinds of files that are no list, which the readers of placements exclude;
and a version that cannot be looked up, which only the top of a configuration has.
-/

namespace Conventions

/-! ## Mappings with text keys -/

namespace Value

mutual
/-- Whether the keys of all mappings within a value are texts. -/
def hasTextKeys : Value → Bool
  | .scalar _ => true
  | .list items => itemsHaveTextKeys items
  | .map entries => entriesHaveTextKeys entries

/-- Whether the keys of all mappings within the items of a list are texts. -/
def itemsHaveTextKeys : List Value → Bool
  | [] => true
  | v :: vs => v.hasTextKeys && itemsHaveTextKeys vs

/-- Whether the keys of some entries, and of all mappings within their values, are texts. -/
def entriesHaveTextKeys : List (Scalar × Value) → Bool
  | [] => true
  | (.text _, v) :: es => v.hasTextKeys && entriesHaveTextKeys es
  | _ :: _ => false
end

theorem hasTextKeys_list {vs : List Value} :
    (Value.list vs).hasTextKeys = true ↔ ∀ v ∈ vs, v.hasTextKeys = true := by
  rw [hasTextKeys]
  induction vs with
  | nil => simp [itemsHaveTextKeys]
  | cons v vs ih => rw [itemsHaveTextKeys, Bool.and_eq_true, ih, List.forall_mem_cons]

theorem hasTextKeys_map {es : List (Scalar × Value)} : (Value.map es).hasTextKeys = true ↔
    ∀ e ∈ es, (∃ s, e.1 = .text s) ∧ e.2.hasTextKeys = true := by
  rw [hasTextKeys]
  induction es with
  | nil => simp [entriesHaveTextKeys]
  | cons e es ih =>
      obtain ⟨k, v⟩ := e
      cases k with
      | text s => simp [entriesHaveTextKeys, ih]
      | _ => simp [entriesHaveTextKeys]

theorem hasTextKeys_of_field? {es : List (Scalar × Value)} {name : String} {v : Value}
    (h : (Value.map es).hasTextKeys = true) (hv : field? es name = some v) : v.hasTextKeys = true := by
  obtain ⟨e, he, rfl⟩ := Option.map_eq_some_iff.1 hv
  exact (hasTextKeys_map.1 h e (List.mem_of_find?_eq_some he)).2

end Value

/-! ## Faults with a message -/

/-- Whether a fault is reported: it does not stop the program, nor does it say that kinds of files are no list. -/
def ConfigFault.IsReported (f : ConfigFault) : Prop :=
  f.isInternal = false ∧ ∀ kind, f ≠ .rules (.placement (.notIterable kind))

/-- Whether a schema is refused with a message. -/
def SchemaFault.IsReported (f : SchemaFault) : Prop := ∀ kind, f ≠ .notIterable kind

open Conventions.Except (FailsIn)

namespace Schema

theorem readKinds_failsIn {path : String} {vs : List Value} :
    FailsIn SchemaFault.IsReported (readKinds path (.list vs)) := by
  refine FailsIn.map (FailsIn.mapM fun v _ => ?_)
  unfold readKind
  split
  · exact .of_ok
  · exact .of_error nofun

theorem ofMapping_failsIn {mapping : List (String × Value)} (h : ∀ e ∈ mapping, ∃ vs, e.2 = .list vs) :
    FailsIn SchemaFault.IsReported (ofMapping mapping) := by
  refine FailsIn.foldlM (fun e he s => ?_) empty
  obtain ⟨vs, hvs⟩ := h e he
  unfold readEntry
  split
  · exact .of_error nofun
  · rw [hvs]
    exact readKinds_failsIn.map

end Schema

/-! ## Sections -/

variable {data : Section}

theorem Section.under_failsIn {key : String} : FailsIn ConfigFault.IsReported (data.under key) := by
  unfold Section.under
  split
  · exact .of_ok
  · exact .of_ok
  · exact .of_ok
  · exact .of_error ⟨rfl, nofun⟩

namespace Value

variable {v : Value} {context : String}

theorem readTexts_failsIn : FailsIn ConfigFault.IsReported (v.readTexts context) := by
  unfold readTexts
  split
  · exact .of_ok
  · split
    · exact .of_ok
    · exact .of_error ⟨rfl, nofun⟩
  · exact .of_error ⟨rfl, nofun⟩

theorem readBool_failsIn : FailsIn ConfigFault.IsReported (v.readBool context) := by
  unfold readBool
  split
  · exact .of_ok
  · exact .of_error ⟨rfl, nofun⟩

end Value

namespace Settings

variable {s t : Settings}

theorem readCommitTypes_failsIn : FailsIn ConfigFault.IsReported (readCommitTypes data s) := by
  unfold readCommitTypes
  split
  · exact .of_ok
  · refine Value.readTexts_failsIn.bind fun ts _ => ?_
    split
    · exact .of_error ⟨rfl, nofun⟩
    · exact .of_ok

theorem readSwitch_failsIn {key : String} {old : Value} :
    FailsIn ConfigFault.IsReported (readSwitch data key old) := by
  unfold readSwitch
  split
  · exact .of_ok
  · exact Value.readBool_failsIn.map

theorem readCommit_failsIn : FailsIn ConfigFault.IsReported (readCommit data s) := by
  refine Section.under_failsIn.bind fun commit _ => readCommitTypes_failsIn.bind fun s _ => ?_
  exact readSwitch_failsIn.bind fun _ _ => readSwitch_failsIn.bind fun _ _ =>
    readSwitch_failsIn.bind fun _ _ => .of_ok

theorem readBranch_failsIn : FailsIn ConfigFault.IsReported (readBranch data s) := by
  refine Section.under_failsIn.bind fun branch _ => ?_
  split
  · exact .of_ok
  · exact Value.readTexts_failsIn.bind fun _ _ => .of_ok

theorem readSuffixes_failsIn : FailsIn ConfigFault.IsReported (readSuffixes data s) := by
  unfold readSuffixes
  split
  · exact .of_ok
  · exact .of_ok
  · split
    · exact .of_error ⟨rfl, nofun⟩
    · exact .of_ok

theorem readPlacement_failsIn {context : String → String} :
    FailsIn ConfigFault.IsReported (readPlacement context data) := by
  refine FailsIn.bind (FailsIn.mapM fun e _ => ?_) fun _ _ => .of_ok
  exact Value.readTexts_failsIn.bind fun _ _ => .of_ok

theorem readSchema_failsIn : FailsIn ConfigFault.IsReported (readSchema data s) := by
  unfold readSchema
  split
  · exact .of_ok
  · exact readPlacement_failsIn.bind fun _ _ => .of_ok
  · exact .of_error ⟨rfl, nofun⟩

theorem readIgnore_failsIn : FailsIn ConfigFault.IsReported (readIgnore data) := by
  unfold readIgnore
  split
  · exact .of_ok
  · exact Value.readTexts_failsIn

theorem read_failsIn : FailsIn ConfigFault.IsReported (read data) := by
  refine readCommit_failsIn.bind fun _ _ => readBranch_failsIn.bind fun _ _ => ?_
  refine readSuffixes_failsIn.bind fun _ _ => Section.under_failsIn.bind fun _ _ => ?_
  exact readSchema_failsIn.bind fun _ _ => readIgnore_failsIn.bind fun _ _ => .of_ok

/-! ## Placements -/

/-- The kinds that may lie in a directory are a list. -/
def ListsKinds (mapping : List (String × Value)) : Prop := ∀ e ∈ mapping, ∃ vs, e.2 = .list vs

theorem readPlacement_listsKinds {context : String → String} {mapping : List (String × Value)}
    (h : readPlacement context data = .ok mapping) : ListsKinds mapping := by
  obtain ⟨read, hread, h⟩ := Except.bind_eq_ok.1 h
  cases h
  refine Entries.forall_overlay (List.forall_mem_nil _) (Except.forall_mapM ?_ hread)
  intro e b hb
  obtain ⟨ts, _, hb⟩ := Except.bind_eq_ok.1 hb
  cases hb
  exact ⟨_, rfl⟩

theorem listsKinds_default : ListsKinds Settings.default.placement := by
  intro e he
  obtain ⟨d, _, rfl⟩ := List.mem_map.1 he
  exact ⟨_, rfl⟩

theorem placement_of_readCommit (h : readCommit data s = .ok t) : t.placement = s.placement := by
  obtain ⟨commit, _, h⟩ := Except.bind_eq_ok.1 h
  obtain ⟨u, hu, h⟩ := Except.bind_eq_ok.1 h
  obtain ⟨space, _, h⟩ := Except.bind_eq_ok.1 h
  obtain ⟨breaking, _, h⟩ := Except.bind_eq_ok.1 h
  obtain ⟨merges, _, h⟩ := Except.bind_eq_ok.1 h
  cases h
  unfold readCommitTypes at hu
  split at hu
  · cases hu
    rfl
  · obtain ⟨ts, _, hu⟩ := Except.bind_eq_ok.1 hu
    split at hu
    · cases hu
    · cases hu
      rfl

theorem placement_of_readBranch (h : readBranch data s = .ok t) : t.placement = s.placement := by
  obtain ⟨branch, _, h⟩ := Except.bind_eq_ok.1 h
  split at h
  · cases h
    rfl
  · obtain ⟨ts, _, h⟩ := Except.bind_eq_ok.1 h
    cases h
    rfl

theorem placement_of_readSuffixes (h : readSuffixes data s = .ok t) : t.placement = s.placement := by
  unfold readSuffixes at h
  split at h
  · cases h
    rfl
  · cases h
    rfl
  · split at h
    · cases h
    · cases h
      rfl

theorem readSchema_listsKinds (h : readSchema data s = .ok t) (hs : ListsKinds s.placement) :
    ListsKinds t.placement := by
  unfold readSchema at h
  split at h
  · cases h
    exact hs
  · obtain ⟨m, hm, h⟩ := Except.bind_eq_ok.1 h
    cases h
    exact readPlacement_listsKinds hm
  · cases h

theorem read_listsKinds {ignore : List String} (h : read data = .ok (s, ignore)) :
    ListsKinds s.placement := by
  obtain ⟨t, ht, h⟩ := Except.bind_eq_ok.1 h
  obtain ⟨u, hu, h⟩ := Except.bind_eq_ok.1 h
  obtain ⟨v, hv, h⟩ := Except.bind_eq_ok.1 h
  obtain ⟨placement, _, h⟩ := Except.bind_eq_ok.1 h
  obtain ⟨w, hw, h⟩ := Except.bind_eq_ok.1 h
  obtain ⟨globs, _, h⟩ := Except.bind_eq_ok.1 h
  cases h
  refine readSchema_listsKinds hw ?_
  rw [placement_of_readSuffixes hv, placement_of_readBranch hu, placement_of_readCommit ht]
  exact listsKinds_default

end Settings

/-! ## Rule entries -/

namespace RuleEntry

theorem checkKeys_failsIn {id : String} {fields : Section} (h : ∀ e ∈ fields, ∃ s, e.1 = .text s) :
    FailsIn ConfigFault.IsReported (checkKeys id fields) := by
  have htexts : ∀ v ∈ ((fields.map Prod.fst).filter fun k => !entryKeys.any fun n => k == .text n).map
      Value.scalar, ∃ s, v = Value.text s := by
    intro v hv
    obtain ⟨k, hk, rfl⟩ := List.mem_map.1 hv
    obtain ⟨e, he, rfl⟩ := List.mem_map.1 (List.mem_filter.1 hk).1
    obtain ⟨s, hs⟩ := h e he
    exact ⟨s, congrArg Value.scalar hs⟩
  obtain ⟨ss, hss⟩ := Value.exists_map_text htexts
  unfold checkKeys
  dsimp only
  split
  · exact .of_ok
  · split
    · -- texts can be put in order
      rename_i hsome
      rw [hss, Value.firstIncomparable_map_text] at hsome
      cases hsome
    · exact .of_error ⟨rfl, nofun⟩

theorem readField_failsIn {α : Type} {fields : Section} {key : String} {read : Value → Except ConfigFault α}
    (h : ∀ v, FailsIn ConfigFault.IsReported (read v)) :
    FailsIn ConfigFault.IsReported (readField fields key read) := by
  unfold readField
  split
  · exact .of_ok
  · exact (h _).map

theorem readSeverity_failsIn {id : String} {v : Value} :
    FailsIn ConfigFault.IsReported (readSeverity id v) := by
  unfold readSeverity
  split
  · exact .of_ok
  · exact .of_error ⟨rfl, nofun⟩

theorem read_failsIn {index : Nat} {v : Value} (h : v.hasTextKeys = true) :
    FailsIn ConfigFault.IsReported (read index v) := by
  unfold read
  split
  · split
    · exact .of_error ⟨rfl, nofun⟩
    · refine (checkKeys_failsIn fun e he => (Value.hasTextKeys_map.1 h e he).1).bind fun _ _ => ?_
      refine (readField_failsIn fun _ => readSeverity_failsIn).bind fun _ _ => ?_
      exact (readField_failsIn fun _ => Value.readBool_failsIn).bind fun _ _ => .of_ok
  · exact .of_error ⟨rfl, nofun⟩

theorem readParam_failsIn {context : String} {key : Scalar} {v : Value} :
    FailsIn ConfigFault.IsReported (readParam context key v) := by
  unfold readParam
  split
  · refine Settings.readPlacement_failsIn.bind fun mapping hmapping => ?_
    split
    · exact .of_ok
    · rename_i f hf
      have hreported := Schema.ofMapping_failsIn (Settings.readPlacement_listsKinds hmapping) f hf
      refine .of_error ⟨?_, nofun⟩
      cases f with
      | notIterable kind => exact absurd rfl (hreported kind)
      | _ => rfl
  · split
    · exact Value.readTexts_failsIn.map
    · exact .of_ok
  · exact .of_ok

theorem mergeParams_failsIn {context : String} {ps : Params} {v : Option Value} :
    FailsIn ConfigFault.IsReported (mergeParams context ps v) := by
  unfold mergeParams
  split
  · exact .of_ok
  · exact .of_ok
  · exact FailsIn.foldlM (fun _ _ _ => readParam_failsIn.bind fun _ _ => .of_ok) ps
  · exact .of_error ⟨rfl, nofun⟩

variable {e : RuleEntry}

theorem change_failsIn {r : Rule} : FailsIn ConfigFault.IsReported (e.change r) := by
  unfold change
  split
  · exact .of_error ⟨rfl, nofun⟩
  · exact mergeParams_failsIn.bind fun _ _ => .of_ok

theorem create_failsIn {base : Category → Params} : FailsIn ConfigFault.IsReported (e.create base) := by
  unfold create
  split
  · exact .of_error ⟨rfl, nofun⟩
  · exact .of_error ⟨rfl, nofun⟩
  · exact mergeParams_failsIn.map

theorem changeIn_failsIn {rs : List Rule} : FailsIn ConfigFault.IsReported (e.changeIn rs) := by
  induction rs with
  | nil => exact .of_ok
  | cons r rs ih =>
      rw [changeIn]
      split
      · exact change_failsIn.map
      · exact ih.map

end RuleEntry

namespace RuleDrafts

variable {base : Category → Params}

theorem readEntry_failsIn {d : RuleDrafts} {entry : Value × Nat} (h : entry.1.hasTextKeys = true) :
    FailsIn ConfigFault.IsReported (readEntry base d entry) := by
  refine (RuleEntry.read_failsIn h).bind fun e _ => ?_
  split
  · exact RuleEntry.changeIn_failsIn.bind fun _ _ => .of_ok
  · exact RuleEntry.create_failsIn.bind fun _ _ => .of_ok

theorem readEntries_failsIn {defaults : List Rule} {v : Option Value} (h : ∀ w ∈ v, w.hasTextKeys = true) :
    FailsIn ConfigFault.IsReported (readEntries base defaults v) := by
  unfold readEntries
  split
  · exact .of_ok
  · exact .of_ok
  · rename_i vs
    refine FailsIn.map (FailsIn.foldlM (fun entry hentry d => readEntry_failsIn ?_) _)
    exact Value.hasTextKeys_list.1 (h _ rfl) entry.1 (List.fst_mem_of_mem_zipIdx hentry)
  · exact .of_error ⟨rfl, nofun⟩

end RuleDrafts

/-! ## Sets of rules -/

/-- Whether a fault of a rule set is about a schema. -/
def RuleFault.IsPlacement (f : RuleFault) : Prop := ∃ g, f = .placement g

namespace Rule

variable {r : Rule} {f : RuleFault}

theorem not_isPlacement_of_matcherFault? (h : r.matcherFault? = some f) : ¬f.IsPlacement := by
  rintro ⟨g, rfl⟩
  unfold matcherFault? at h
  split at h
  · cases h
  · split at h <;> cases h

theorem not_isPlacement_of_templateFault? (h : r.templateFault? = some f) : ¬f.IsPlacement := by
  rintro ⟨g, rfl⟩
  unfold templateFault? at h
  split at h
  · cases h
  · dsimp only at h
    split at h <;> cases h

theorem not_isPlacement_of_paramsFault? (h : r.paramsFault? = some f) : ¬f.IsPlacement := by
  rintro ⟨g, rfl⟩
  unfold paramsFault? at h
  split at h
  · unfold suffixFault? at h
    split at h
    · obtain ⟨s, _, hs⟩ := Option.map_eq_some_iff.1 h
      cases hs
    · cases h
  · split at h <;> cases h
  · cases h

theorem not_isPlacement_of_fault? (h : r.fault? = some f) : ¬f.IsPlacement := by
  rw [fault?, Option.or_eq_some_iff, Option.or_eq_some_iff] at h
  rcases h with h | ⟨_, h | ⟨_, h⟩⟩
  · exact not_isPlacement_of_matcherFault? h
  · exact not_isPlacement_of_templateFault? h
  · exact not_isPlacement_of_paramsFault? h

end Rule

namespace RuleSet

theorem not_isPlacement_of_firstFault {taken : List String} {rs : List Rule} {f : RuleFault}
    (h : firstFault taken rs = some f) : ¬f.IsPlacement := by
  induction rs generalizing taken with
  | nil => cases h
  | cons r rs ih =>
      rw [firstFault] at h
      split at h
      · cases h
        rintro ⟨_, ⟨⟩⟩
      · split at h
        · rename_i hr
          cases h
          exact Rule.not_isPlacement_of_fault? hr
        · exact ih h

theorem ofRules_failsIn {rs : List Rule} : FailsIn (fun f => ¬f.IsPlacement) (ofRules rs) := by
  unfold ofRules
  split
  · rename_i f hf
    exact .of_error (not_isPlacement_of_firstFault hf)
  · exact .of_ok

end RuleSet

end Conventions
