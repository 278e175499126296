import Mathlib
import Conventions.Proofs.Aggregate

/-!
# Verdicts as sorted representatives

A verdict has one diagnostic for each rule and span that is reported, which is one with the least message, and lists them
by rule, span and message. So the diagnostics of a verdict have the same verdict again. A missing span is sorted as if both
of its offsets were -1: it comes before the parts of a text, and after spans that start further down.
-/

namespace Conventions.RuleSet

variable {s : RuleSet} {ds : List Diagnostic} {a b d e : Diagnostic}

/-! ## The order of a verdict -/

/-- The place of a span in a verdict: a missing one has the place of offsets of -1. -/
def spanPlace (x : Option Span) : ℤ ×ₗ ℤ := toLex ((x.getD ⟨-1, -1⟩).start, (x.getD ⟨-1, -1⟩).stop)

/-- The place of a span where a missing one comes before all others. -/
def missingFirst : Option Span → WithBot (ℤ ×ₗ ℤ)
  | none => ⊥
  | some x => ((toLex (x.start, x.stop) : ℤ ×ₗ ℤ) : WithBot (ℤ ×ₗ ℤ))

/-- What diagnostics are sorted by: the position of the rule, the place of the span, the message. -/
def sortKey {α : Type} (s : RuleSet) (place : Option Span → α) (d : Diagnostic) : ℕ ×ₗ α ×ₗ String :=
  toLex (s.indexOf d.ruleId, toLex (place d.span, d.message))

theorem compareDiagnostics_eq_compare (s : RuleSet) (a b : Diagnostic) :
    s.compareDiagnostics a b = compare (s.sortKey spanPlace a) (s.sortKey spanPlace b) := rfl

theorem notAfter_iff_sortKey_le : s.notAfter a b = true ↔ s.sortKey spanPlace a ≤ s.sortKey spanPlace b := by
  rw [notAfter, decide_eq_true_eq, compareDiagnostics_eq_compare, compare_le_iff_le]

theorem sortKey_le_iff {α : Type} [LinearOrder α] {place : Option Span → α} :
    s.sortKey place a ≤ s.sortKey place b ↔ s.indexOf a.ruleId < s.indexOf b.ruleId ∨
      s.indexOf a.ruleId = s.indexOf b.ruleId ∧
        (place a.span < place b.span ∨ place a.span = place b.span ∧ a.message ≤ b.message) := by
  rw [sortKey, sortKey, Prod.Lex.toLex_le_toLex, Prod.Lex.toLex_le_toLex]

theorem spanPlace_lt_iff_missingFirst {x y : Option Span} (hx : ∀ z ∈ x, 0 ≤ z.start) (hy : ∀ z ∈ y, 0 ≤ z.start) :
    spanPlace x < spanPlace y ↔ missingFirst x < missingFirst y := by
  cases x with
  | none =>
      cases y with
      | none => simp [missingFirst]
      | some y =>
          have hstart := hy y rfl
          simp only [missingFirst, WithBot.bot_lt_coe, iff_true]
          exact Prod.Lex.toLex_lt_toLex.2 (Or.inl (by simp; omega))
  | some x =>
      cases y with
      | none =>
          have hstart := hx x rfl
          simp only [missingFirst, not_lt_bot, iff_false, not_lt]
          exact (Prod.Lex.toLex_lt_toLex.2 (Or.inl (by simp; omega))).le
      | some y => exact WithBot.coe_lt_coe.symm

/-- Where no span starts below zero, a missing span comes before all others. -/
theorem sortKey_le_iff_missingFirst (ha : ∀ x ∈ a.span, 0 ≤ x.start) (hb : ∀ x ∈ b.span, 0 ≤ x.start) :
    s.sortKey missingFirst a ≤ s.sortKey missingFirst b ↔ s.sortKey spanPlace a ≤ s.sortKey spanPlace b := by
  have hlt := spanPlace_lt_iff_missingFirst ha hb
  have hgt := spanPlace_lt_iff_missingFirst hb ha
  have heq : spanPlace a.span = spanPlace b.span ↔ missingFirst a.span = missingFirst b.span := by
    rw [eq_iff_le_not_lt, eq_iff_le_not_lt, ← not_lt, ← not_lt, hlt, hgt]
  rw [sortKey_le_iff, sortKey_le_iff, hlt, heq]

/-! ## One diagnostic of each rule and span -/

theorem compareDiagnostics_of_duplicateKey_eq (h : duplicateKey a = duplicateKey b) :
    s.compareDiagnostics a b = compare a.message b.message := by
  obtain ⟨hid, hspan⟩ := Prod.mk.inj h
  simp [compareDiagnostics, compareSpans, hid, hspan]

theorem message_le_of_mem_aggregate (hd : d ∈ (s.aggregate ds).diagnostics) (he : e ∈ ds)
    (hkey : duplicateKey e = duplicateKey d) : d.message ≤ e.message := by
  have hfirst : s.compareDiagnostics e d ≠ .lt := fun hlt => not_givesWay_of_mem_aggregate hd ⟨e, he, hkey, hlt⟩
  rw [compareDiagnostics_of_duplicateKey_eq hkey, ne_eq, compare_lt_iff_lt] at hfirst
  exact not_lt.1 hfirst

theorem mem_duplicateKeys_aggregate_iff {key : String × Option Span} :
    key ∈ (s.aggregate ds).diagnostics.map duplicateKey ↔ key ∈ ds.map duplicateKey := by
  constructor
  · intro hkey
    obtain ⟨d, hd, rfl⟩ := List.mem_map.1 hkey
    exact List.mem_map_of_mem (mem_of_mem_aggregate hd)
  · intro hkey
    obtain ⟨d, hd, rfl⟩ := List.mem_map.1 hkey
    obtain ⟨e, he, hsame⟩ := s.exists_mem_aggregate hd
    exact List.mem_map.2 ⟨e, he, hsame⟩

theorem mem_ids_of_indexOf_le (hb : b.ruleId ∈ s.ids) (h : s.indexOf a.ruleId ≤ s.indexOf b.ruleId) :
    a.ruleId ∈ s.ids := by
  have hlt : s.indexOf b.ruleId < s.ids.length := List.idxOf_lt_length_iff.2 hb
  exact List.idxOf_lt_length_iff.1 (h.trans_lt hlt)

/-- Whether diagnostics stand for given ones: they are some of them, one for each rule and span, with the least message,
and they are sorted, those of unknown rules at the end. -/
structure StandsFor (s : RuleSet) (vs ds : List Diagnostic) : Prop where
  sorted : vs.Pairwise fun a b => s.sortKey spanPlace a ≤ s.sortKey spanPlace b
  unknownLast : vs.Pairwise fun a b => b.ruleId ∈ s.ids → a.ruleId ∈ s.ids
  distinct : (vs.map duplicateKey).Nodup
  given : ∀ d ∈ vs, d ∈ ds
  covers : ∀ key, key ∈ vs.map duplicateKey ↔ key ∈ ds.map duplicateKey
  least : ∀ d ∈ vs, ∀ e ∈ ds, duplicateKey e = duplicateKey d → d.message ≤ e.message

theorem standsFor_aggregate (s : RuleSet) (ds : List Diagnostic) : s.StandsFor (s.aggregate ds).diagnostics ds where
  sorted := (s.pairwise_aggregate ds).imp notAfter_iff_sortKey_le.1
  unknownLast := by
    refine (s.pairwise_aggregate ds).imp fun {a b} hle hb => mem_ids_of_indexOf_le hb ?_
    rcases sortKey_le_iff.1 (notAfter_iff_sortKey_le.1 hle) with hlt | ⟨heq, _⟩
    · exact hlt.le
    · exact heq.le
  distinct := nodup_dropDuplicates
  given := fun _ => mem_of_mem_aggregate
  covers := fun _ => mem_duplicateKeys_aggregate_iff
  least := fun _ hd _ he hkey => message_le_of_mem_aggregate hd he hkey

theorem pairwise_missingFirst (hstart : ∀ d ∈ ds, ∀ x ∈ d.span, 0 ≤ x.start) :
    (s.aggregate ds).diagnostics.Pairwise fun a b => s.sortKey missingFirst a ≤ s.sortKey missingFirst b := by
  refine (s.standsFor_aggregate ds).sorted.imp_of_mem fun ha hb hle => ?_
  exact (sortKey_le_iff_missingFirst (hstart _ (mem_of_mem_aggregate ha)) (hstart _ (mem_of_mem_aggregate hb))).2 hle

/-- The verdict of diagnostics has one of them for each rule and span, with the least message, and is sorted by rule, span
and message. A missing span has the place of offsets of -1, so that it comes first if no span starts below zero. The
verdict is good exactly if it has no error, and the diagnostics of a verdict have the same verdict. -/
theorem aggregate_standsFor (s : RuleSet) (ds : List Diagnostic) :
    s.StandsFor (s.aggregate ds).diagnostics ds ∧
      ((∀ d ∈ ds, ∀ x ∈ d.span, 0 ≤ x.start) →
        (s.aggregate ds).diagnostics.Pairwise fun a b => s.sortKey missingFirst a ≤ s.sortKey missingFirst b) ∧
      ((s.aggregate ds).ok = true ↔ ∀ d ∈ (s.aggregate ds).diagnostics, d.severity ≠ .error) ∧
      s.aggregate (s.aggregate ds).diagnostics = s.aggregate ds := by
  refine ⟨s.standsFor_aggregate ds, pairwise_missingFirst, ?_, ?_⟩
  · simp [Verdict.ok]
  · exact aggregate_of_notAfter (s.pairwise_aggregate ds) nodup_dropDuplicates

/-- Findings of a default rule, two of them about the same part of a path and one about no part, and one of a rule that is
unknown. -/
def repeatedFindings : List Diagnostic :=
  [⟨"Team.Unknown", .warning, "odd", none⟩, ⟨"Path.UnknownRoot", .error, "lost", some ⟨0, 6⟩⟩,
    ⟨"Path.UnknownRoot", .warning, "gone", some ⟨0, 6⟩⟩, ⟨"Path.UnknownRoot", .error, "nowhere", none⟩]

theorem aggregate_repeatedFindings : (∀ d ∈ repeatedFindings, ∀ x ∈ d.span, 0 ≤ x.start) ∧
    (RuleSet.default.aggregate repeatedFindings).diagnostics.Pairwise fun a b =>
      RuleSet.default.sortKey missingFirst a ≤ RuleSet.default.sortKey missingFirst b := by
  have hstart : ∀ d ∈ repeatedFindings, ∀ x ∈ d.span, 0 ≤ x.start := by simp [repeatedFindings]
  exact ⟨hstart, (aggregate_standsFor RuleSet.default repeatedFindings).2.1 hstart⟩

/-- A span that starts at -2 stays before a missing one. -/
theorem not_missingFirst_aggregate : ¬∀ (s : RuleSet) (ds : List Diagnostic),
    (s.aggregate ds).diagnostics.Pairwise fun a b => s.sortKey missingFirst a ≤ s.sortKey missingFirst b := by
  intro h
  have hpair := h RuleSet.default
    [⟨"Commit.UnknownType", .error, "x", some ⟨-2, 0⟩⟩, ⟨"Commit.UnknownType", .error, "x", none⟩]
  have hbelow : ((compare (-2 : Int) (-1)).then (compare (0 : Int) (-1))) = .lt := by decide
  rw [aggregate_of_notAfter (by simp [notAfter, compareDiagnostics, compareSpans, hbelow]) (by simp [duplicateKey]),
    List.pairwise_pair, sortKey_le_iff] at hpair
  simp [missingFirst] at hpair

end Conventions.RuleSet
