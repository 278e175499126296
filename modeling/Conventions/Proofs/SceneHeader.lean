import Conventions.Proofs.Entries
import Conventions.Proofs.LineEnds
import Conventions.Proofs.Script
import Conventions.Source.Scene

/-!
# Headers of nodes as they are written

A header has its attributes in brackets, with a backslash in front of each quote and each backslash of a value. The reader
finds the attributes that were written and no others, as it goes on behind the closing quote of each value, whatever the
value looks like. So a header declares a node exactly if it has a name and a parent and is no instance.
-/

namespace Conventions.Scene

/-! ## Written headers -/

/-- A value with a backslash in front of each quote and each backslash. -/
def escaped (value : List Char) : List Char :=
  value.flatMap fun c => if c = '"' ∨ c = '\\' then ['\\', c] else [c]

/-- A value between quotes. -/
def quoted (value : List Char) : List Char := '"' :: (escaped value ++ ['"'])

/-- An attribute, its key and its value, as it is written. -/
def written (a : List Char × List Char) : List Char := a.1 ++ '=' :: quoted a.2

/-- Attributes with blanks between them. -/
def attributeText (as : List (List Char × List Char)) : List Char := Text.join [' '] (as.map written)

/-- The header of a node with some attributes. -/
def header (as : List (List Char × List Char)) : List Char := "[node ".toList ++ (attributeText as ++ [']'])

/-- Whether attributes can be written on a line: their keys are distinct words, their values have no line boundary, and the
name has nothing to be escaped. -/
structure IsWritable (as : List (List Char × List Char)) : Prop where
  ne_nil : as ≠ []
  distinct : (Entries.keys as).Nodup
  key : ∀ a ∈ as, Script.IsWord a.1
  value : ∀ a ∈ as, Text.IsLine a.2
  name : ∀ name, Entries.get? "name".toList as = some name → '"' ∉ name ∧ '\\' ∉ name

/-- Whether attributes declare a node: they have a name and a parent, and the node is no instance. -/
structure DeclaresNode (as : List (List Char × List Char)) (n : List Char) : Prop where
  name : Entries.get? "name".toList as = some n
  ne_nil : n ≠ []
  parent : (Entries.get? "parent".toList as).isSome
  no_instance : Entries.get? "instance".toList as = none

variable {as : List (List Char × List Char)} {value rest : List Char}

/-! ## Values -/

theorem toQuote_escaped (value rest : List Char) :
    toQuote (escaped value ++ '"' :: rest) = some (escaped value, rest) := by
  induction value with
  | nil => rfl
  | cons c value ih =>
      rw [escaped] at ih ⊢
      rw [List.flatMap_cons, List.append_assoc]
      split
      · simp only [List.cons_append, List.nil_append, toQuote, ih, Option.map_some]
      · rename_i hc
        rw [not_or] at hc
        rw [List.singleton_append, List.cons_append,
          toQuote.eq_5 c _ hc.1 (fun _ _ hb => absurd hb hc.2) (fun hb => absurd hb hc.2), ih]
        rfl

/-- A value is read up to its closing quote, whatever follows. -/
theorem value?_quoted (value rest : List Char) : value? (quoted value ++ rest) = some (quoted value, rest) := by
  have hread := toQuote_escaped value rest
  have htext : quoted value ++ rest = '"' :: (escaped value ++ '"' :: rest) := by simp [quoted]
  rw [htext, value?]
  simp only [hread, Option.map_some, Option.some_or, quoted]

theorem escaped_of_not_mem (hquote : '"' ∉ value) (hbackslash : '\\' ∉ value) : escaped value = value := by
  have hplain : ∀ c ∈ value, (if c = '"' ∨ c = '\\' then ['\\', c] else [c]) = [c] := fun c hc => by
    refine if_neg fun h => ?_
    rcases h with rfl | rfl
    · exact hquote hc
    · exact hbackslash hc
  rw [escaped, List.flatMap_congr hplain, List.flatMap_singleton']

theorem unquoted_quoted (hquote : '"' ∉ value) (hbackslash : '\\' ∉ value) : unquoted (quoted value) = value := by
  rw [quoted, escaped_of_not_mem hquote hbackslash, unquoted]
  cases value with
  | nil => rfl
  | cons c value =>
      have hc : c ≠ '"' := fun hc => hquote (hc ▸ List.mem_cons_self)
      have hend : ∀ d ∈ ['"'], decide (d = '"') = true := by simp
      rw [List.dropWhile_cons_of_pos (by decide), List.cons_append, List.dropWhile_cons_of_neg (by simpa using hc),
        ← List.cons_append, Text.dropEndWhile_append_of_all hend, Text.dropEndWhile_of_not_mem hquote]

/-! ## Attributes -/

theorem attribute?_written {a : List Char × List Char} (h : Script.IsWord a.1) (rest : List Char) :
    attribute? (written a ++ rest) = some ((a.1, quoted a.2), rest) := by
  have htext : written a ++ rest = a.1 ++ '=' :: (quoted a.2 ++ rest) := by simp [written]
  have hkey : (a.1 ++ '=' :: (quoted a.2 ++ rest)).takeWhile Text.isWord = a.1 :=
    Text.takeWhile_append_of_head h.2 (by rintro c ⟨⟩; decide)
  rw [htext, attribute?, hkey, if_neg (by simpa using h.1), List.drop_left]
  simp only [value?_quoted, Option.map_some]

theorem attributesOf_of_attribute? {cs : List Char} {a : List Char × List Char} (h : attribute? cs = some (a, rest))
    (n : Nat) : attributesOf (n + 1) cs = a :: attributesOf n rest := by
  cases cs with
  | nil => cases h
  | cons c cs => rw [attributesOf, h]

theorem attributesOf_blank (n : Nat) (rest : List Char) : attributesOf (n + 1) (' ' :: rest) = attributesOf n rest := by
  have hnone : attribute? (' ' :: rest) = none := rfl
  rw [attributesOf, hnone]

theorem attributeText_cons_cons (a b : List Char × List Char) (as : List (List Char × List Char)) :
    attributeText (a :: b :: as) = written a ++ ' ' :: attributeText (b :: as) := Text.join_cons_cons

theorem length_written_pos (a : List Char × List Char) : 0 < (written a).length := by
  rw [written, List.length_append, List.length_cons]
  omega

/-- The reader finds the attributes that were written. -/
theorem attributesOf_attributeText (h : ∀ a ∈ as, Script.IsWord a.1) {n : Nat} (hn : (attributeText as).length ≤ n) :
    attributesOf n (attributeText as) = as.map fun a => (a.1, quoted a.2) := by
  induction as generalizing n with
  | nil => cases n <;> rfl
  | cons a as ih =>
      rw [List.forall_mem_cons] at h
      have hpos := length_written_pos a
      cases as with
      | nil =>
          have htext : attributeText [a] = written a ++ [] := (List.append_nil _).symm
          rw [htext, List.append_nil] at hn
          obtain ⟨m, rfl⟩ : ∃ m, n = m + 1 := ⟨n - 1, by omega⟩
          rw [htext, attributesOf_of_attribute? (attribute?_written h.1 []) m]
          cases m <;> rfl
      | cons b as =>
          rw [attributeText_cons_cons, List.length_append, List.length_cons] at hn
          obtain ⟨m, rfl⟩ : ∃ m, n = m + 2 := ⟨n - 2, by omega⟩
          rw [attributeText_cons_cons, attributesOf_of_attribute? (attribute?_written h.1 _) (m + 1), attributesOf_blank,
            ih h.2 (by omega)]
          rfl

/-- Of a header that can be written, every attribute counts as it was written, and nothing else does. -/
theorem attributes_attributeText (h : IsWritable as) :
    attributes (attributeText as) = as.map fun a => (a.1, unquoted (quoted a.2)) := by
  have hkeys : Entries.keys (as.map fun a => (a.1, unquoted (quoted a.2))) = Entries.keys as := by
    simp [Entries.keys]
  rw [attributes, attributesOf_attributeText h.key le_rfl, List.map_map]
  exact Entries.overlay_nil_of_nodup (hkeys ▸ h.distinct)

/-! ## Headers -/

theorem isLine_escaped (h : Text.IsLine value) : Text.IsLine (escaped value) := by
  intro c hc
  obtain ⟨d, hd, hc⟩ := List.mem_flatMap.1 hc
  split at hc
  · rcases List.mem_cons.1 hc with rfl | hc
    · decide
    · exact List.mem_singleton.1 hc ▸ h d hd
  · exact List.mem_singleton.1 hc ▸ h d hd

theorem isLine_of_isWord {word : List Char} (h : Script.IsWord word) : Text.IsLine word := by
  intro c hc
  rw [Bool.eq_false_iff]
  intro hend
  have hword := Text.isWord_eq_false_of_isBlank (Text.isBlank_of_isLineEnd hend)
  exact Bool.false_ne_true (hword.symm.trans (h.2 c hc))

theorem isLine_written {a : List Char × List Char} (hkey : Script.IsWord a.1) (hvalue : Text.IsLine a.2) :
    Text.IsLine (written a) := by
  have hquoted : Text.IsLine ("=\"".toList ++ (escaped a.2 ++ "\"".toList)) :=
    .append (by decide) (.append (isLine_escaped hvalue) (by decide))
  exact (isLine_of_isWord hkey).append hquoted

/-- A header that can be written stands on one line. -/
theorem isLine_header (h : IsWritable as) : Text.IsLine (header as) := by
  have htext : Text.IsLine (attributeText as) := by
    intro c hc
    rcases Text.mem_of_mem_join hc with hblank | ⟨w, hw, hcw⟩
    · rw [List.mem_singleton.1 hblank]
      decide
    · obtain ⟨a, ha, rfl⟩ := List.mem_map.1 hw
      exact isLine_written (h.key a ha) (h.value a ha) c hcw
  exact .append (by decide) (htext.append (by decide))

theorem isSolid_attributeText (h : IsWritable as) (rest : List Char) : Script.IsSolid (attributeText as ++ rest) := by
  obtain ⟨a, as, rfl⟩ := List.exists_cons_of_ne_nil h.ne_nil
  have htext : ∃ t, attributeText (a :: as) ++ rest = a.1 ++ t := by
    cases as with
    | nil => exact ⟨'=' :: quoted a.2 ++ rest, List.append_assoc _ _ _⟩
    | cons b as =>
        refine ⟨'=' :: quoted a.2 ++ (' ' :: attributeText (b :: as) ++ rest), ?_⟩
        rw [attributeText_cons_cons, written]
        simp
  obtain ⟨t, ht⟩ := htext
  exact ht ▸ Script.isSolid_of_isWord (h.key a List.mem_cons_self) t

theorem header?_header (h : IsWritable as) : header? (header as) = some (attributeText as) := by
  have hlast : (header as).getLast? = some ']' := by
    show ("[node ".toList ++ (attributeText as ++ [']'])).getLast? = some ']'
    rw [List.getLast?_append, List.getLast?_concat, Option.some_or]
  have htrim : Text.trim (header as) = header as := by
    refine Text.trim_eq_self ?_ ?_
    · rintro c ⟨⟩
      decide
    · intro c hc
      cases hlast.symm.trans hc
      decide
  have hprefix : "[node".toList.isPrefixOf (header as) = true := by
    rw [List.isPrefixOf_iff_prefix]
    exact ⟨' ' :: (attributeText as ++ [']']), rfl⟩
  have hdrop : (header as).drop 5 = ' ' :: (attributeText as ++ [']']) := rfl
  have hsolid : Text.trimStart (attributeText as ++ [']']) = attributeText as ++ [']'] :=
    Text.dropWhile_of_head (isSolid_attributeText h [']'])
  simp only [header?, htrim, hprefix, if_true, hdrop, List.getLast?_concat, hsolid, List.dropLast_concat]
  rfl

theorem declared?_header (h : IsWritable as) (n : List Char) (k : IdentifierKind) :
    declared? (header as) = some (n, k) ↔ DeclaresNode as n ∧ k = .nodeName := by
  have hget (key : List Char) : Entries.get? key (attributes (attributeText as)) =
      (Entries.get? key as).map fun v => unquoted (quoted v) := by
    rw [attributes_attributeText h]
    exact Entries.get?_map fun v => unquoted (quoted v)
  rw [declared?, header?_header h]
  simp only [Option.map_some, Option.bind_eq_bind, Option.bind_some, hget]
  cases hname : Entries.get? "name".toList as with
  | none =>
      simp only [Option.map_none, Option.bind_none, reduceCtorEq, false_iff]
      rintro ⟨hn, _⟩
      cases hname.symm.trans hn.name
  | some v =>
      obtain ⟨hquote, hbackslash⟩ := h.name v hname
      have hdeclares : (v.isEmpty || (Entries.get? "parent".toList as).isNone ||
          (Entries.get? "instance".toList as).isSome) = false ↔ DeclaresNode as v := by
        rw [Bool.or_eq_false_iff, Bool.or_eq_false_iff]
        constructor
        · rintro ⟨⟨hv, hparent⟩, hinstance⟩
          exact ⟨hname, by simpa using hv, by simpa using hparent, by simpa using hinstance⟩
        · intro hn
          exact ⟨⟨by simpa using hn.ne_nil, by simpa using hn.parent⟩, by simpa using hn.no_instance⟩
      simp only [Option.map_some, Option.bind_some, unquoted_quoted hquote hbackslash, Option.isNone_map,
        Option.isSome_map]
      split
      · rename_i hcond
        simp only [reduceCtorEq, false_iff]
        rintro ⟨hn, _⟩
        cases hname.symm.trans hn.name
        exact Bool.false_ne_true ((hdeclares.2 hn).symm.trans hcond)
      · rename_i hcond
        have hv : DeclaresNode as v := hdeclares.1 (Bool.eq_false_iff.2 hcond)
        constructor
        · rintro ⟨⟩
          exact ⟨hv, rfl⟩
        · rintro ⟨hn, rfl⟩
          cases hname.symm.trans hn.name
          rfl

theorem declarations_eq (h : IsWritable as) : declarations (String.ofList (header as)) =
    Declaration.ofLinesFrom declared? 1 [header as] := by
  have hne : header as ≠ [] := List.cons_ne_nil _ _
  rw [declarations, String.toList_ofList, Text.lines_of_isLine (isLine_header h) hne]

theorem declarations_of_declaresNode (h : IsWritable as) {n : List Char} (hn : DeclaresNode as n) :
    declarations (String.ofList (header as)) = [⟨String.ofList n, .nodeName, 1⟩] := by
  rw [declarations_eq h, Declaration.ofLinesFrom, (declared?_header h n .nodeName).2 ⟨hn, rfl⟩]
  rfl

theorem declarations_of_not_declaresNode (h : IsWritable as) (hn : ∀ n, ¬DeclaresNode as n) :
    declarations (String.ofList (header as)) = [] := by
  have hnone : declared? (header as) = none := by
    rw [Option.eq_none_iff_forall_ne_some]
    rintro ⟨n, k⟩ hdeclared
    exact hn n ((declared?_header h n k).1 hdeclared).1
  rw [declarations_eq h, Declaration.ofLinesFrom, hnone]
  rfl

/-- The attributes of a header are read as they were written. The header declares one node, with the name that was
written, if it has a name and a parent and is no instance, and nothing otherwise. -/
theorem declarations_header (h : IsWritable as) :
    (header? (header as)).map attributes = some (as.map fun a => (a.1, unquoted (quoted a.2))) ∧
      (∀ n, declarations (String.ofList (header as)) = [⟨String.ofList n, .nodeName, 1⟩] ↔ DeclaresNode as n) ∧
      ((∀ n, ¬DeclaresNode as n) → declarations (String.ofList (header as)) = []) := by
  refine ⟨?_, fun n => ⟨fun hn => ?_, declarations_of_declaresNode h⟩, declarations_of_not_declaresNode h⟩
  · rw [header?_header h, Option.map_some, attributes_attributeText h]
  · have hsome : ∃ m, DeclaresNode as m := by
      by_contra hnone
      have hnil := declarations_of_not_declaresNode h (not_exists.1 hnone)
      exact List.cons_ne_nil _ _ (hn.symm.trans hnil)
    obtain ⟨m, hm⟩ := hsome
    have hname := hn.symm.trans (declarations_of_declaresNode h hm)
    simp only [List.cons.injEq, Declaration.mk.injEq, String.ofList_inj, and_true] at hname
    exact hname ▸ hm

/-- A node with a value that looks like other attributes, a header and the end of the value. -/
def trickyAttributes : List (List Char × List Char) :=
  [("name".toList, "Jump Timer".toList), ("note".toList, "\" instance=x parent=\\\"] [node name=".toList),
    ("parent".toList, ".".toList)]

theorem declarations_header_tricky : IsWritable trickyAttributes ∧ DeclaresNode trickyAttributes "Jump Timer".toList ∧
    declarations (String.ofList (header trickyAttributes)) = [⟨"Jump Timer", .nodeName, 1⟩] := by
  have hname : Entries.get? "name".toList trickyAttributes = some "Jump Timer".toList := by decide
  have hwords : ∀ a ∈ trickyAttributes, a.1 ≠ [] ∧ a.1.all Text.isWord = true := by decide
  have hwritable : IsWritable trickyAttributes := by
    refine ⟨by decide, by decide, fun a ha => ?_, by decide, fun n hn => ?_⟩
    · exact ⟨(hwords a ha).1, List.all_eq_true.1 (hwords a ha).2⟩
    · cases hname.symm.trans hn
      decide
  have hdeclares : DeclaresNode trickyAttributes "Jump Timer".toList := ⟨hname, by decide, by decide, by decide⟩
  exact ⟨hwritable, hdeclares, ((declarations_header hwritable).2.1 _).2 hdeclares⟩

end Conventions.Scene
