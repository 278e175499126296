import Mathlib.Data.List.TakeWhile
import Conventions.Casing
import Conventions.Proofs.Text

/-!
# Casing classes and the offsets of violations

A casing class is a set of names over ASCII: a first character out of some ranges, and any number of further ones. The
scan of a name bars some first characters and then looks for one that is no part of names. It finds nothing exactly in
the names of the class, and in another name it stops behind the longest start that is empty or in the class.
-/

namespace Conventions

namespace Text

/-! ## Digits below code point 128 -/

theorem decimalDigit?_eq_none_of_lt {c : Char} (h : c.toNat < 128) (hc : c.isDigit = false) :
    decimalDigit? c = none := by
  have hzeros : ∀ z ∈ zeros, z = 48 ∨ 128 ≤ z := by decide
  rw [decimalDigit?, Option.map_eq_none_iff, List.find?_eq_none]
  intro z hz hin
  rw [Bool.and_eq_true, decide_eq_true_eq, decide_eq_true_eq] at hin
  rcases hzeros z hz with rfl | hhigh
  · rw [isDigit_iff.2 hin] at hc
    cases hc
  · omega

theorem isDigit_of_lt {c : Char} (h : c.toNat < 128) : isDigit c = c.isDigit := by
  cases hc : c.isDigit with
  | false =>
      have hranges : ∀ r ∈ otherDigitRanges, 128 ≤ r.1 := by decide
      rw [isDigit, decimalDigit?_eq_none_of_lt h hc, Option.isSome_none, Bool.false_or, Bool.eq_false_iff]
      intro hin
      obtain ⟨r, hr, hlow, _⟩ := exists_range_of_inRanges hin
      have hhigh := hranges r hr
      omega
  | true =>
      have hzero : ∃ z ∈ zeros, (decide (z ≤ c.toNat) && decide (c.toNat ≤ z + 9)) = true :=
        ⟨48, by decide, by simpa using isDigit_iff.1 hc⟩
      rw [isDigit, decimalDigit?, Option.isSome_map, List.find?_isSome.2 hzero, Bool.true_or]

/-! ## Longest starts -/

/-- Whether a text is the longest start with a property of another text. -/
structure IsLongestPrefix (p : List Char → Prop) (text w : List Char) : Prop where
  isPrefix : w <+: text
  holds : p w
  longest : ∀ v, v <+: text → p v → v.length ≤ w.length

/-- The search for a character without a property stops behind the longest start of characters with it. -/
theorem findIdx?_not (p : Char → Bool) (cs : List Char) :
    (cs.findIdx? fun c => !p c) = if cs.takeWhile p = cs then none else some (cs.takeWhile p).length := by
  induction cs with
  | nil => rfl
  | cons c cs ih =>
      cases hc : p c with
      | false => simp [List.findIdx?_cons, hc]
      | true =>
          rw [List.findIdx?_cons, ih, hc, List.takeWhile_cons_of_pos hc]
          by_cases hall : cs.takeWhile p = cs
          · simp [hall]
          · simp [hall]

end Text

namespace Casing

/-! ## The classes as sets of names -/

/-- Whether names of the class start with a character: `[a-z_]`, `[A-Z_]` or `[A-Z]`. -/
def IsFirst : Casing → Char → Prop
  | .lowerSnake, c => ('a' ≤ c ∧ c ≤ 'z') ∨ c = '_'
  | .upperSnake, c => ('A' ≤ c ∧ c ≤ 'Z') ∨ c = '_'
  | .pascal, c => 'A' ≤ c ∧ c ≤ 'Z'

/-- Whether names of the class go on with a character: `[a-z0-9_]`, `[A-Z0-9_]` or `[A-Za-z0-9]`. -/
def IsFurther : Casing → Char → Prop
  | .lowerSnake, c => ('a' ≤ c ∧ c ≤ 'z') ∨ ('0' ≤ c ∧ c ≤ '9') ∨ c = '_'
  | .upperSnake, c => ('A' ≤ c ∧ c ≤ 'Z') ∨ ('0' ≤ c ∧ c ≤ '9') ∨ c = '_'
  | .pascal, c => ('A' ≤ c ∧ c ≤ 'Z') ∨ ('a' ≤ c ∧ c ≤ 'z') ∨ ('0' ≤ c ∧ c ≤ '9')

/-- Whether a name is in the class: a first character and any number of further ones. -/
def Admits (casing : Casing) (name : List Char) : Prop :=
  ∃ c cs, name = c :: cs ∧ casing.IsFirst c ∧ ∀ d ∈ cs, casing.IsFurther d

variable {casing : Casing} {c : Char} {cs : List Char}

theorem le_char_iff {a b : Char} : a ≤ b ↔ a.toNat ≤ b.toNat := Iff.rfl

theorem isPart_iff : casing.isPart c = true ↔ casing.IsFurther c := by
  cases casing <;>
    simp [isPart, IsFurther, le_char_iff, Text.isAlpha_iff, Text.isLower_iff, Text.isUpper_iff, Text.isDigit_iff, or_assoc]

theorem lt_of_isPart (h : casing.isPart c = true) : c.toNat < 128 := by
  rw [isPart_iff] at h
  cases casing <;> simp only [IsFurther, le_char_iff, ← Char.toNat_inj, Char.reduceToNat] at h <;> omega

theorem IsFirst.isFurther (h : casing.IsFirst c) : casing.IsFurther c := by
  cases casing with
  | lowerSnake => exact h.imp_right Or.inr
  | upperSnake => exact h.imp_right Or.inr
  | pascal => exact Or.inl h

/-- A part of names comes first exactly if it is not barred: of the digits of all scripts, only those of ASCII are
parts. -/
theorem isFirst_iff_of_isPart (h : casing.isPart c = true) : casing.IsFirst c ↔ casing.isBarred c = false := by
  have hdigit := Text.isDigit_of_lt (lt_of_isPart h)
  rw [isPart_iff] at h
  cases casing with
  | lowerSnake =>
      rw [isBarred, hdigit, Bool.eq_false_iff, ne_eq, Text.isDigit_iff]
      simp only [IsFirst, IsFurther, le_char_iff, ← Char.toNat_inj, Char.reduceToNat] at h ⊢
      omega
  | upperSnake =>
      rw [isBarred, hdigit, Bool.eq_false_iff, ne_eq, Text.isDigit_iff]
      simp only [IsFirst, IsFurther, le_char_iff, ← Char.toNat_inj, Char.reduceToNat] at h ⊢
      omega
  | pascal =>
      rw [isBarred, Bool.not_eq_false', Text.isUpper_iff]
      rfl

/-! ## The longest start in the class -/

/-- The characters that the scan of a name passes. -/
def passed (casing : Casing) : List Char → List Char
  | [] => []
  | c :: cs => if casing.isBarred c then [] else (c :: cs).takeWhile casing.isPart

theorem violation?_eq (casing : Casing) (cs : List Char) :
    casing.violation? cs = if cs ≠ [] ∧ casing.passed cs = cs then none else some (casing.passed cs).length := by
  cases cs with
  | nil => rfl
  | cons c cs =>
      rw [violation?, passed]
      split
      · simp
      · rw [Text.findIdx?_not]
        simp

theorem admits_iff : casing.Admits cs ↔ cs ≠ [] ∧ casing.passed cs = cs := by
  constructor
  · rintro ⟨c, cs, rfl, hfirst, hfurther⟩
    have hparts : ∀ d ∈ c :: cs, casing.isPart d = true :=
      fun d hd => isPart_iff.2 ((List.mem_cons.1 hd).elim (fun h => h ▸ hfirst.isFurther) (hfurther d))
    have hbarred := (isFirst_iff_of_isPart (hparts c List.mem_cons_self)).1 hfirst
    refine ⟨List.cons_ne_nil c cs, ?_⟩
    rw [passed, hbarred, if_neg Bool.false_ne_true]
    exact List.takeWhile_eq_self_iff.2 hparts
  · rintro ⟨hne, hpassed⟩
    obtain ⟨c, cs, rfl⟩ := List.exists_cons_of_ne_nil hne
    rw [passed] at hpassed
    split at hpassed
    · cases hpassed
    · rename_i hbarred
      have hparts := List.takeWhile_eq_self_iff.1 hpassed
      exact ⟨c, cs, rfl, (isFirst_iff_of_isPart (hparts c List.mem_cons_self)).2 (Bool.eq_false_iff.2 hbarred),
        fun d hd => isPart_iff.1 (hparts d (List.mem_cons_of_mem c hd))⟩

theorem passed_prefix (casing : Casing) (cs : List Char) : casing.passed cs <+: cs := by
  cases cs with
  | nil => exact List.prefix_rfl
  | cons c cs =>
      rw [passed]
      split
      · exact List.nil_prefix
      · exact List.takeWhile_prefix _

theorem passed_prefix_passed {v : List Char} (h : v <+: cs) : casing.passed v <+: casing.passed cs := by
  cases v with
  | nil => exact List.nil_prefix
  | cons c v =>
      obtain ⟨t, rfl⟩ := h
      rw [List.cons_append, passed, passed]
      split
      · exact List.prefix_rfl
      · exact Text.takeWhile_prefix_takeWhile (List.prefix_append (c :: v) t)

theorem passed_passed (casing : Casing) (cs : List Char) : casing.passed (casing.passed cs) = casing.passed cs := by
  cases cs with
  | nil => rfl
  | cons c cs =>
      rw [passed]
      split
      · rfl
      · rename_i hbarred
        cases hc : casing.isPart c with
        | false =>
            rw [List.takeWhile_cons_of_neg (Bool.eq_false_iff.1 hc)]
            rfl
        | true =>
            rw [List.takeWhile_cons_of_pos hc, passed, if_neg hbarred, List.takeWhile_cons_of_pos hc,
              List.takeWhile_idem]

theorem isLongestPrefix_passed (casing : Casing) (cs : List Char) :
    Text.IsLongestPrefix (fun w => w = [] ∨ casing.Admits w) cs (casing.passed cs) := by
  refine ⟨casing.passed_prefix cs, ?_, ?_⟩
  · rw [admits_iff, casing.passed_passed, and_iff_left rfl]
    exact eq_or_ne _ _
  · rintro v hv (rfl | hadmits)
    · exact Nat.zero_le _
    · -- The scan passes all of a name of the class, and no less of what the name begins.
      rw [← (admits_iff.1 hadmits).2]
      exact (passed_prefix_passed hv).length_le

theorem ofName?_name (casing : Casing) : ofName? casing.name = some casing := by cases casing <;> decide

/-- The scan of a name finds nothing exactly if the whole name is in the class, and otherwise its offset is the length of
the longest start of the name that is empty or in the class. -/
theorem violationOf_name (casing : Casing) (name : String) :
    ∃ found, violationOf casing.name name = .ok found ∧ (found = none ↔ casing.Admits name.toList) ∧
      ∀ i, found = some i →
        ∃ w, Text.IsLongestPrefix (fun w => w = [] ∨ casing.Admits w) name.toList w ∧ w.length = i := by
  refine ⟨casing.violation? name.toList, ?_, ?_, ?_⟩
  · rw [violationOf, casing.ofName?_name]
  · rw [violation?_eq, admits_iff, ite_eq_left_iff]
    simp
  · intro i hi
    rw [violation?_eq] at hi
    split at hi
    · cases hi
    · exact ⟨_, casing.isLongestPrefix_passed name.toList, Option.some.inj hi⟩

example : violationOf "UPPER_SNAKE_CASE" "MAX²" = .ok (some 3) := by decide

end Casing

end Conventions
