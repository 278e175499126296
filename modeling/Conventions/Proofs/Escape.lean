import Conventions.Proofs.Workflow

/-!
# Escapes in workflow commands

The percent sign and the ends of lines may as well be replaced one after the other. The percent sign has to be the first,
since the escapes of the other two begin with it. An escaped text is one line, and it is the escaped form of no other text.
-/

namespace Conventions

/-! ## Replacements in turn -/

namespace Text

/-- Replaces every occurrence of a character by its text, one character of a table after the other. -/
def replaceInTurn (table : List (Char × List Char)) (cs : List Char) : List Char :=
  table.foldl (fun ds r => replaceChar r.1 r.2 ds) cs

/-- The text that a table has for a character: the character itself if it is not in the table. -/
def replacement (table : List (Char × List Char)) (c : Char) : List Char := (table.lookup c).getD [c]

variable {c : Char} {w : List Char} {table : List (Char × List Char)}

theorem replacement_cons (c : Char) (w : List Char) (table : List (Char × List Char)) (d : Char) :
    replacement ((c, w) :: table) d = if d = c then w else replacement table d := by
  rw [replacement, List.lookup_cons]
  by_cases h : d = c
  · simp [h]
  · rw [if_neg h, beq_false_of_ne h]
    rfl

theorem replacement_of_forall_ne (h : ∀ r ∈ table, r.1 ≠ c) : replacement table c = [c] := by
  have hnone : table.lookup c = none :=
    List.lookup_eq_none_iff.2 fun r hr => bne_iff_ne.2 (h r hr).symm
  rw [replacement, hnone, Option.getD_none]

theorem flatMap_replacement_of_not_mem (h : ∀ r ∈ table, r.1 ∉ w) : w.flatMap (replacement table) = w := by
  have hkept : ∀ c ∈ w, replacement table c = [c] := by
    intro c hc
    refine replacement_of_forall_ne fun r hr he => h r hr ?_
    rwa [he]
  rw [List.flatMap_congr hkept, List.flatMap_singleton']

/-- Replacements in turn are as good as all of them at once, if none of them replaces what an earlier one has written. -/
theorem replaceInTurn_eq_flatMap (h : table.Pairwise fun r s => s.1 ∉ r.2) (cs : List Char) :
    replaceInTurn table cs = cs.flatMap (replacement table) := by
  induction table generalizing cs with
  | nil => exact (List.flatMap_singleton' cs).symm
  | cons r table ih =>
      obtain ⟨c, w⟩ := r
      rw [List.pairwise_cons] at h
      calc replaceInTurn ((c, w) :: table) cs
          = (replaceChar c w cs).flatMap (replacement table) := ih h.2 _
        _ = cs.flatMap fun d => (if d = c then w else [d]).flatMap (replacement table) := List.flatMap_assoc
        _ = cs.flatMap (replacement ((c, w) :: table)) := by
            refine List.flatMap_congr fun d _ => ?_
            rw [replacement_cons]
            split
            · exact flatMap_replacement_of_not_mem h.1
            · exact List.append_nil _

-- with the percent sign last, the escape of a line feed is replaced again, and two texts become one
example : replaceInTurn [('\n', "%0A".toList), ('%', "%25".toList)] ['\n'] =
    replaceInTurn [('\n', "%0A".toList), ('%', "%25".toList)] "%0A".toList := by decide

end Text

/-! ## Escaped texts -/

namespace Report

/-- The escapes of a text in a workflow command, in the order in which they may be written. -/
def escapes : List (Char × List Char) := [('%', "%25".toList), ('\r', "%0D".toList), ('\n', "%0A".toList)]

theorem replacement_escapes (c : Char) : Text.replacement escapes c = escapeDataChar c := by
  rw [escapes, Text.replacement_cons, Text.replacement_cons, Text.replacement_cons]
  rfl

theorem escapeData_eq_flatMap (s : String) :
    (escapeData s).toList = s.toList.flatMap escapeDataChar := String.toList_ofList

theorem escapeData_eq_replaceInTurn (s : String) :
    (escapeData s).toList = Text.replaceInTurn escapes s.toList := by
  have hturn : escapes.Pairwise fun r s => s.1 ∉ r.2 := by decide
  rw [Text.replaceInTurn_eq_flatMap hturn, escapeData_eq_flatMap]
  exact List.flatMap_congr fun c _ => (replacement_escapes c).symm

theorem not_mem_escapeData {c : Char} (h : c = '\n' ∨ c = '\r') (s : String) :
    c ∉ (escapeData s).toList := by
  rw [escapeData_eq_flatMap]
  exact not_mem_escape h s.toList

theorem undoEscapes_escapeData (s : String) : undoEscapes (escapeData s).toList = s.toList := by
  rw [escapeData_eq_flatMap, undoEscapes_escape]

theorem escapeData_inj {s t : String} : escapeData s = escapeData t ↔ s = t := by
  refine ⟨fun h => String.toList_injective ?_, congrArg escapeData⟩
  rw [← undoEscapes_escapeData s, ← undoEscapes_escapeData t, h]

/-- Escaping is to replace the percent sign, the carriage return and the line feed in turn. It gives one line, which a
single pass reads back, so that different texts have different escaped forms. -/
theorem escapeData_lossless (s : String) :
    (escapeData s).toList = Text.replaceInTurn escapes s.toList ∧
      '\r' ∉ (escapeData s).toList ∧ '\n' ∉ (escapeData s).toList ∧
      undoEscapes (escapeData s).toList = s.toList ∧
      ∀ t, escapeData s = escapeData t ↔ s = t :=
  ⟨escapeData_eq_replaceInTurn s, not_mem_escapeData (Or.inr rfl) s, not_mem_escapeData (Or.inl rfl) s,
    undoEscapes_escapeData s, fun _ => escapeData_inj⟩

end Report

end Conventions
