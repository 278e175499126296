import Mathlib.Logic.Relator
import Conventions.Config.Entry
import Conventions.Proofs.Config
import Conventions.Proofs.Entries
import Conventions.Proofs.Except

/-!
# What rule entries say

A rule entry is read from a mapping exactly if the mapping has a text as identifier, no other keys than those of
entries, and a severity and a switch that can be read, if it has any. The parameters of an entry are read one by one,
and merging them is laying them over the parameters that are there.
-/

namespace Conventions

theorem Severity.read_eq_ok_iff {s : String} {g : Severity} : Severity.read s = .ok g ↔ ofText? s = some g := by
  unfold Severity.read
  cases ofText? s <;> simp

theorem Value.readBool_eq_ok_iff {v : Value} {context : String} {b : Bool} :
    v.readBool context = .ok b ↔ v = .bool b := by
  unfold readBool
  split
  · simp [bool]
  · rename_i h
    simpa [bool] using fun hv => h b hv

namespace RuleEntry

variable {e : RuleEntry} {fields : Section} {id key : String}

/-! ## Reading an entry -/

/-- An entry holds what the fields of a mapping say. -/
structure Describes (e : RuleEntry) (fields : Section) : Prop where
  id : Value.field? fields "id" = some (.text e.id)
  isId : Rule.isId e.id = true
  keys : ∀ f ∈ fields, ∃ n ∈ entryKeys, f.1 = .text n
  severity : (Value.field? fields "severity").map (fun v => Severity.ofText? v.plain) = e.severity.map some
  enabled : Value.field? fields "enabled" = e.enabled.map Value.bool
  matcher : e.matcher = Value.field? fields "matcher"
  message : e.message = (Value.field? fields "message").map Value.plain
  description : e.description = (Value.field? fields "description").map Value.plain
  params : e.params = Value.field? fields "params"

/-- Whether a value is a mapping with the fields of an entry. -/
def IsReadFrom (e : RuleEntry) (v : Value) : Prop := ∃ fields, v = .map fields ∧ e.Describes fields

theorem idOf?_eq_some_iff :
    idOf? fields = some id ↔ Value.field? fields "id" = some (.text id) ∧ Rule.isId id = true := by
  unfold idOf?
  split
  · rename_i t ht
    rw [ht]
    by_cases hid : Rule.isId t = true
    · simp only [hid, if_true, Option.some.injEq, Value.text, Value.scalar.injEq, Scalar.text.injEq]
      exact ⟨fun h => ⟨h, h ▸ hid⟩, fun h => h.1⟩
    · simp only [hid, Bool.false_eq_true, if_false, reduceCtorEq, false_iff, Option.some.injEq, Value.text,
        Value.scalar.injEq, Scalar.text.injEq]
      rintro ⟨rfl, h⟩
      exact hid h
  · rename_i h
    simp only [reduceCtorEq, false_iff]
    exact fun hid => h id hid.1

theorem checkKeys_eq_ok_iff : checkKeys id fields = .ok () ↔ ∀ f ∈ fields, ∃ n ∈ entryKeys, f.1 = .text n := by
  have hextra : ((fields.map Prod.fst).filter fun k => !entryKeys.any fun n => k == .text n) = [] ↔
      ∀ f ∈ fields, ∃ n ∈ entryKeys, f.1 = .text n := by
    simp [List.filter_eq_nil_iff]
  rw [← hextra]
  unfold checkKeys
  dsimp only
  split
  · rename_i h
    simpa using h
  · rename_i h
    split <;> simpa using h

theorem readSeverity_eq_ok_iff {v : Value} {g : Severity} :
    readSeverity id v = .ok g ↔ Severity.ofText? v.plain = some g := by
  rw [← Severity.read_eq_ok_iff]
  unfold readSeverity
  split <;> simp_all

theorem readField_eq_ok_iff {α : Type} {read : Value → Except ConfigFault α} {o : Option α} :
    readField fields key read = .ok o ↔ (Value.field? fields key).map read = o.map .ok := by
  unfold readField
  split
  · rename_i h
    cases o <;> simp [h]
  · rename_i v h
    rw [h]
    cases hread : read v <;> cases o <;> simp [Except.map, hread]

theorem readField_severity_iff {o : Option Severity} : readField fields "severity" (readSeverity id) = .ok o ↔
    (Value.field? fields "severity").map (fun v => Severity.ofText? v.plain) = o.map some := by
  rw [readField_eq_ok_iff]
  cases Value.field? fields "severity" <;> cases o <;> simp [readSeverity_eq_ok_iff]

theorem readField_enabled_iff {context : String} {o : Option Bool} :
    readField fields "enabled" (Value.readBool context) = .ok o ↔
      Value.field? fields "enabled" = o.map Value.bool := by
  rw [readField_eq_ok_iff]
  cases Value.field? fields "enabled" <;> cases o <;> simp [Value.readBool_eq_ok_iff]

theorem read_map_eq_ok_iff {index : Nat} : read index (.map fields) = .ok e ↔ e.Describes fields := by
  cases hid : idOf? fields with
  | none =>
      simp only [read, hid, reduceCtorEq, false_iff]
      intro h
      rw [idOf?_eq_some_iff.2 ⟨h.id, h.isId⟩] at hid
      cases hid
  | some id =>
      simp only [read, hid, Except.bind_eq_ok, readField_severity_iff, readField_enabled_iff]
      obtain ⟨hfield, hisId⟩ := idOf?_eq_some_iff.1 hid
      constructor
      · rintro ⟨_, hkeys, severity, hseverity, enabled, henabled, h⟩
        cases h
        exact ⟨hfield, hisId, checkKeys_eq_ok_iff.1 hkeys, hseverity, henabled, rfl, rfl, rfl, rfl⟩
      · intro h
        obtain rfl : id = e.id := by simpa [hfield, Value.text] using h.id
        refine ⟨(), checkKeys_eq_ok_iff.2 h.keys, e.severity, h.severity, e.enabled, h.enabled, ?_⟩
        rw [← h.matcher, ← h.message, ← h.description, ← h.params]
        rfl

theorem read_eq_ok_iff {index : Nat} {v : Value} : read index v = .ok e ↔ e.IsReadFrom v := by
  cases v with
  | map fields => simp [IsReadFrom, read_map_eq_ok_iff]
  | _ => simp [IsReadFrom, read]

theorem leftUnique_isReadFrom : Relator.LeftUnique IsReadFrom := by
  intro e f v he hf
  have he : read 0 v = .ok e := read_eq_ok_iff.2 he
  have hf : read 0 v = .ok f := read_eq_ok_iff.2 hf
  exact Except.ok.inj (he.symm.trans hf)

/-! ## Parameters of an entry -/

/-- Reads the parameters of an entry, in the order in which they are given. -/
def readParams (e : RuleEntry) : Except ConfigFault Params :=
  match e.params with
  | none | some (.scalar .null) => .ok []
  | some (.map es) => es.mapM fun p => do return (p.1.plain, ← readParam e.context p.1 p.2)
  | some _ => .error (.paramsNoMapping e.context)

/-- The parameters of an entry, none if they cannot be read. -/
def ownParams (e : RuleEntry) : Params := e.readParams.toOption.getD []

theorem ownParams_of_readParams {ps : Params} (h : e.readParams = .ok ps) : e.ownParams = ps := by
  simp [ownParams, h, Except.toOption]

/-- Setting parameters while they are read is reading them first and laying them over the others. -/
theorem foldlM_set_eq_map_overlay {α : Type} {read : α → Except ConfigFault (String × Param)} {xs : List α}
    {ps : Params} : xs.foldlM (fun qs x => do let p ← read x; return Entries.set p.1 p.2 qs) ps =
      (xs.mapM read).map (Entries.overlay ps) := by
  induction xs generalizing ps with
  | nil => rfl
  | cons x xs ih =>
      rw [List.foldlM_cons, List.mapM_cons]
      cases hx : read x with
      | error f => rfl
      | ok p =>
          have hstep := @ih (Entries.set p.1 p.2 ps)
          cases hxs : xs.mapM read <;> rw [hxs] at hstep <;> exact hstep

theorem mergeParams_eq (ps : Params) :
    mergeParams e.context ps e.params = e.readParams.map (Entries.overlay ps) := by
  unfold readParams
  cases e.params with
  | none => rfl
  | some v =>
      cases v with
      | scalar s => cases s <;> rfl
      | list vs => rfl
      | map es => simp only [mergeParams, ← foldlM_set_eq_map_overlay, bind_assoc, pure_bind]

end RuleEntry

end Conventions
