import Conventions.Rule

/-!
# Rule sets

A rule set is a list of sound rules with distinct identifiers. The order of the rules is the order in
which findings are reported. Rules can be switched on and off and graded anew, which keeps
everything else.
-/

namespace Conventions

/-- A list of sound rules with distinct identifiers. -/
structure RuleSet where
  rules : List Rule
  distinct : (rules.map Rule.id).Nodup
  sound : ∀ r ∈ rules, r.fault? = none

namespace RuleSet

/-- The first fault in a list of rules, given the identifiers that are taken. -/
def firstFault (taken : List String) : List Rule → Option RuleFault
  | [] => none
  | r :: rs =>
    if r.id ∈ taken then some (.duplicateId r.id)
    else match r.fault? with
      | some f => some f
      | none => firstFault (r.id :: taken) rs

theorem firstFault_eq_none {taken : List String} {rs : List Rule} (h : firstFault taken rs = none) :
    (rs.map Rule.id).Nodup ∧ (∀ r ∈ rs, r.id ∉ taken) ∧ ∀ r ∈ rs, r.fault? = none := by
  induction rs generalizing taken with
  | nil => simp
  | cons r rs ih =>
      simp only [firstFault] at h
      split at h
      · cases h
      · rename_i hr
        split at h
        · cases h
        · rename_i hf
          obtain ⟨hd, ht, hs⟩ := ih h
          refine ⟨?_, ?_, ?_⟩
          · simp only [List.map_cons, List.nodup_cons]
            refine ⟨?_, hd⟩
            intro hm
            obtain ⟨q, hq, hqr⟩ := List.mem_map.1 hm
            exact ht q hq (by simp [hqr])
          · intro q hq
            rcases List.mem_cons.1 hq with rfl | hq
            · exact hr
            · exact fun hm => ht q hq (List.mem_cons_of_mem _ hm)
          · intro q hq
            rcases List.mem_cons.1 hq with rfl | hq
            · exact hf
            · exact hs q hq

/-- The rule set of a list of rules. -/
def ofRules (rs : List Rule) : Except RuleFault RuleSet :=
  match h : firstFault [] rs with
  | some f => .error f
  | none => .ok ⟨rs, (firstFault_eq_none h).1, (firstFault_eq_none h).2.2⟩

/-- The identifiers of the rules in order. -/
def ids (s : RuleSet) : List String := s.rules.map Rule.id

/-- The rule of an identifier. -/
def get? (s : RuleSet) (id : String) : Option Rule := s.rules.find? fun r => r.id == id

/-- The position of an identifier; an unknown one comes after all rules. -/
def indexOf (s : RuleSet) (id : String) : Nat := s.ids.findIdx (· == id)

/-- Whether an identifier belongs to a rule. -/
def contains (s : RuleSet) (id : String) : Bool := s.ids.contains id

/-- The rules of a category, enabled or not. -/
def byCategory (s : RuleSet) (c : Category) : List Rule := s.rules.filter fun r => r.category = c

/-- The rule set as text: the identifiers of its rules. -/
def text (s : RuleSet) : String := "RuleSet(" ++ Text.quotedList s.ids ++ ")"

/-- Changes of a rule set: rules to switch on or off, and rules to grade anew. -/
structure Overrides where
  enabled : List (String × Bool)
  severities : List (String × Severity)
deriving Repr

/-- The identifiers that changes name. -/
def Overrides.ids (o : Overrides) : List String :=
  Entries.keys o.enabled ++ Entries.keys o.severities

/-- A rule after changes. -/
def Overrides.apply (o : Overrides) (r : Rule) : Rule :=
  { r with
    severity := (Entries.get? r.id o.severities).getD r.severity
    enabled := (Entries.get? r.id o.enabled).getD r.enabled }

/-- The rule set after changes that name only its rules. -/
def override (s : RuleSet) (o : Overrides) : RuleSet where
  rules := s.rules.map o.apply
  distinct := by
    have h : (s.rules.map o.apply).map Rule.id = s.rules.map Rule.id := by
      simp [List.map_map, Function.comp_def, Overrides.apply]
    rw [h]
    exact s.distinct
  sound := by
    intro r hr
    obtain ⟨q, hq, rfl⟩ := List.mem_map.1 hr
    exact (q.fault?_graded _ _).trans (s.sound q hq)

/-- The rule set after changes; changes that name unknown rules are refused. -/
def withOverrides (s : RuleSet) (o : Overrides) : Except RuleFault RuleSet :=
  match o.ids.filter fun id => !s.contains id with
  | [] => .ok (s.override o)
  | unknown => .error (.unknownIds (Text.sortedDistinct unknown))

end RuleSet

end Conventions
