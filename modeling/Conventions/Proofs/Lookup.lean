import Mathlib.Data.List.Nodup
import Mathlib.Logic.Relation
import Conventions.Proofs.Override

/-!
# Look-ups in rule sets

A rule set is asked for the position of an identifier, for its rule, whether it is known, and for the rules of a
category. As identifiers are distinct, the answers agree with the list of rules and with tables that are filled rule by
rule, in which a later rule would take the place of an earlier one. Accepted changes keep every identifier at its place.
-/

namespace Conventions

theorem Category.mem_all (c : Category) : c ∈ Category.all := by cases c <;> decide

namespace RuleSet

variable {s t : RuleSet} {rs : List Rule} {x : String}

/-! ## Tables that are filled rule by rule -/

/-- The table of the rules by their identifiers. -/
def ruleTable (rs : List Rule) : List (String × Rule) := Entries.overlay [] (rs.map fun r => (r.id, r))

/-- The table of the positions by identifiers. -/
def positionTable (rs : List Rule) : List (String × Nat) :=
  Entries.overlay [] (rs.zipIdx.map fun e => (e.1.id, e.2))

theorem ruleTable_eq (hd : (rs.map Rule.id).Nodup) : ruleTable rs = rs.map fun r => (r.id, r) := by
  refine Entries.overlay_nil_of_nodup ?_
  rw [Entries.keys, List.map_map]
  exact hd

theorem positionTable_eq (hd : (rs.map Rule.id).Nodup) :
    positionTable rs = rs.zipIdx.map fun e => (e.1.id, e.2) := by
  have hkeys : Entries.keys (rs.zipIdx.map fun e => (e.1.id, e.2)) = rs.map Rule.id := by
    have hids : (Prod.fst ∘ fun e : Rule × Nat => (e.1.id, e.2)) = Rule.id ∘ Prod.fst := rfl
    rw [Entries.keys, List.map_map, hids, ← List.map_map, List.zipIdx_map_fst]
  exact Entries.overlay_nil_of_nodup (hkeys ▸ hd)

theorem get?_map_id (rs : List Rule) (x : String) :
    Entries.get? x (rs.map fun r => (r.id, r)) = rs.find? fun r => r.id == x := by
  induction rs with
  | nil => rfl
  | cons r rs ih =>
      by_cases h : r.id = x
      · simp [Entries.get?, h]
      · simp [Entries.get?, h, ih]

/-- Positions that are counted from a number on. -/
theorem get?_zipIdx (rs : List Rule) (x : String) (n : Nat) :
    (Entries.get? x ((rs.zipIdx n).map fun e => (e.1.id, e.2))).getD (n + rs.length) =
      n + (rs.map Rule.id).findIdx (· == x) := by
  induction rs generalizing n with
  | nil => rfl
  | cons r rs ih =>
      have hrest := ih (n + 1)
      by_cases h : r.id = x
      · simp [Entries.get?, h, List.findIdx_cons]
      · simp only [List.zipIdx_cons, List.map_cons, Entries.get?, if_neg h, List.length_cons, List.findIdx_cons,
          beq_eq_false_iff_ne.2 h, cond_false]
        rw [← Nat.add_assoc, Nat.add_right_comm n, hrest]
        omega

/-! ## Answers about the rules -/

theorem nodup_rules (s : RuleSet) : s.rules.Nodup := List.Nodup.of_map _ s.distinct

theorem contains_iff : s.contains x = true ↔ ∃ r ∈ s.rules, r.id = x := by
  simp [contains, ids]

theorem get?_eq_some_iff {r : Rule} : s.get? x = some r ↔ r ∈ s.rules ∧ r.id = x := by
  constructor
  · intro h
    exact ⟨List.mem_of_find?_eq_some h, by simpa using List.find?_some h⟩
  · rintro ⟨hr, rfl⟩
    exact s.get?_id hr

theorem indexOf_lt_iff : s.indexOf x < s.rules.length ↔ s.contains x = true := by
  have hlength : s.rules.length = s.ids.length := by rw [ids, List.length_map]
  rw [contains_iff, indexOf, hlength, List.findIdx_lt_length]
  simp [ids]

theorem mem_byCategory_iff {c : Category} {r : Rule} : r ∈ s.byCategory c ↔ r ∈ s.rules ∧ r.category = c := by
  rw [byCategory, List.mem_filter, decide_eq_true_iff]

theorem nodup_flatMap_byCategory (s : RuleSet) : (Category.all.flatMap s.byCategory).Nodup := by
  have hdistinct : Category.all.Nodup := by decide
  rw [List.nodup_flatMap]
  refine ⟨fun c _ => s.nodup_rules.filter _, hdistinct.imp ?_⟩
  intro c d hcd r hc hd
  exact hcd ((mem_byCategory_iff.1 hc).2.symm.trans (mem_byCategory_iff.1 hd).2)

/-- The rules of all categories are the rules, each of them once. -/
theorem perm_flatMap_byCategory (s : RuleSet) : (Category.all.flatMap s.byCategory).Perm s.rules := by
  rw [List.perm_ext_iff_of_nodup s.nodup_flatMap_byCategory s.nodup_rules]
  intro r
  rw [List.mem_flatMap]
  constructor
  · rintro ⟨c, _, hr⟩
    exact (mem_byCategory_iff.1 hr).1
  · intro hr
    exact ⟨r.category, r.category.mem_all, mem_byCategory_iff.2 ⟨hr, rfl⟩⟩

/-- What the look-ups in a rule set say agrees with its list of rules. -/
structure AgreesWithRules (s : RuleSet) : Prop where
  position : ∀ i (h : i < s.rules.length), s.indexOf s.rules[i].id = i
  rule : ∀ i (h : i < s.rules.length), s.get? s.rules[i].id = some s.rules[i]
  known_iff_rule : ∀ x, s.contains x = true ↔ ∃ r, s.get? x = some r
  known_iff_position : ∀ x, s.contains x = true ↔ s.indexOf x < s.rules.length
  ruleTable : ∀ x, s.get? x = Entries.get? x (ruleTable s.rules)
  positionTable : ∀ x, s.indexOf x = (Entries.get? x (positionTable s.rules)).getD s.rules.length
  category_sublist : ∀ c, (s.byCategory c).Sublist s.rules
  categories_perm : (Category.all.flatMap s.byCategory).Perm s.rules
  categories_nodup : (Category.all.flatMap s.byCategory).Nodup

theorem agreesWithRules (s : RuleSet) : s.AgreesWithRules where
  position _ h := s.indexOf_getElem h
  rule _ h := s.get?_id (List.getElem_mem h)
  known_iff_rule x := by simp only [contains_iff, get?_eq_some_iff]
  known_iff_position x := indexOf_lt_iff.symm
  ruleTable x := by rw [ruleTable_eq s.distinct, get?_map_id, get?]
  positionTable x := by
    have h := get?_zipIdx s.rules x 0
    rw [Nat.zero_add, Nat.zero_add] at h
    rw [positionTable_eq s.distinct, h]
    rfl
  category_sublist _ := List.filter_sublist
  categories_perm := s.perm_flatMap_byCategory
  categories_nodup := s.nodup_flatMap_byCategory

/-! ## Rule sets after changes -/

/-- Whether accepted changes lead from one rule set to another. -/
def ChangesTo (s t : RuleSet) : Prop := ∃ o, s.withOverrides o = .ok t

/-- Whether accepted changes, any number of them one after the other, lead from one rule set to another. -/
def Reaches (s t : RuleSet) : Prop := Relation.ReflTransGen ChangesTo s t

theorem ChangesTo.ids_eq (h : s.ChangesTo t) : t.ids = s.ids := by
  obtain ⟨o, ho⟩ := h
  obtain ⟨_, rfl⟩ := withOverrides_eq_ok_iff.1 ho
  rw [ids, ids, override, List.map_map]
  rfl

theorem Reaches.ids_eq (h : s.Reaches t) : t.ids = s.ids := by
  induction h with
  | refl => rfl
  | tail _ hstep ih => exact hstep.ids_eq.trans ih

/-- In every rule set that accepted changes lead to from an accepted list of rules, the identifiers are those of the
list, the rules are accepted again, and the look-ups agree with them. -/
theorem agreesWithRules_of_reaches (h : ofRules rs = .ok s) (ht : s.Reaches t) :
    t.ids = rs.map Rule.id ∧ ofRules t.rules = .ok t ∧ t.AgreesWithRules := by
  obtain rfl := rules_of_ofRules h
  exact ⟨ht.ids_eq, ofRules_of_sound t.distinct t.sound, t.agreesWithRules⟩

/-- The default rules after two changes: one of them is switched off, and the rule behind it is a warning. -/
def regraded : RuleSet :=
  (RuleSet.default.override ⟨[("Path.UnknownRoot", false)], []⟩).override ⟨[], [("Path.KindNotAllowedHere", .warning)]⟩

/-- A rule that is switched off and the rule behind it keep their places. -/
theorem agreesWithRules_regraded : ofRules (rulesWith defaultParams) = .ok RuleSet.default ∧
    RuleSet.default.Reaches regraded ∧ regraded.ids = (rulesWith defaultParams).map Rule.id ∧
      regraded.AgreesWithRules ∧ regraded.indexOf "Path.UnknownRoot" = 9 ∧
        regraded.indexOf "Path.KindNotAllowedHere" = 10 := by
  have haccepted := ofRules_of_sound RuleSet.default.distinct RuleSet.default.sound
  have hfirst : RuleSet.default.ChangesTo (RuleSet.default.override ⟨[("Path.UnknownRoot", false)], []⟩) :=
    ⟨_, withOverrides_eq_ok_iff.2 ⟨by decide +kernel, rfl⟩⟩
  have hsecond : (RuleSet.default.override ⟨[("Path.UnknownRoot", false)], []⟩).ChangesTo regraded :=
    ⟨_, withOverrides_eq_ok_iff.2 ⟨by decide +kernel, rfl⟩⟩
  have hreaches : RuleSet.default.Reaches regraded := (Relation.ReflTransGen.single hfirst).tail hsecond
  obtain ⟨hids, _, hagrees⟩ := agreesWithRules_of_reaches haccepted hreaches
  exact ⟨haccepted, hreaches, hids, hagrees, hagrees.position 9 (by decide), hagrees.position 10 (by decide)⟩

end RuleSet

end Conventions
