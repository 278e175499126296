import Conventions.Commit.Message
import Conventions.Proofs.LineEnds

/-!
# Stripped messages

A message that has been stripped is clean: its lines end with line feeds, none of them is a comment, the first one is not
blank, and no blanks are behind the last one. Stripping changes a text exactly if it is not clean, so it changes nothing
the second time. What stands below the scissors does not count, nor does a comment line wherever it stands.
-/

namespace Conventions.Commit

variable {text l : List Char} {ls ks : List (List Char)}

/-- Whether a text is a message without anything that is to be stripped. -/
structure IsClean (text : List Char) : Prop where
  newlines : ∀ c ∈ text, Text.isLineEnd c = true → c = '\n'
  no_comment : ∀ l ∈ Text.lines text, isComment l = false
  first : ∀ l, (Text.lines text).head? = some l → Text.allBlank l = false
  last : Text.trimEnd text = text

/-- Whether a text is a comment line other than the scissors. -/
structure IsCommentLine (l : List Char) : Prop where
  comment : isComment l = true
  isLine : Text.IsLine l
  ne_scissors : l ≠ scissors

/-! ## Lines that count -/

theorem isComment_of_isPrefix {l : List Char} (hl : l <+: text) (h : isComment l = true) : isComment text = true := by
  obtain ⟨rest, rfl⟩ := hl
  cases l with
  | nil => cases h
  | cons c l => exact h

theorem ne_scissors_of_isComment (h : isComment l = false) : l ≠ scissors := by
  rintro rfl
  cases h

theorem keptLines_cons {l : List Char} (hcomment : isComment l = false) (hblank : Text.allBlank l = false)
    (ls : List (List Char)) : ∃ ls', keptLines (l :: ls) = l :: ls' := by
  have hscissors : l ≠ scissors := ne_scissors_of_isComment hcomment
  refine ⟨(ls.takeWhile (· ≠ scissors)).filter fun l => !isComment l, ?_⟩
  simp [keptLines, hscissors, hcomment, hblank]

theorem mem_of_mem_keptLines (h : l ∈ keptLines ls) : l ∈ ls ∧ isComment l = false := by
  have hfilter := (List.dropWhile_suffix Text.allBlank).subset h
  rw [List.mem_filter] at hfilter
  exact ⟨(List.takeWhile_prefix _).subset hfilter.1, by simpa using hfilter.2⟩

theorem allBlank_head?_keptLines (h : (keptLines ls).head? = some l) : Text.allBlank l = false := by
  have hhead := List.head?_dropWhile_not Text.allBlank ((ls.takeWhile (· ≠ scissors)).filter fun l => !isComment l)
  rw [← keptLines, h] at hhead
  exact hhead

theorem keptLines_eq_self (hcomment : ∀ l ∈ ls, isComment l = false)
    (hfirst : ∀ l, ls.head? = some l → Text.allBlank l = false) : keptLines ls = ls := by
  have htake : ls.takeWhile (· ≠ scissors) = ls :=
    List.takeWhile_eq_self_iff.2 fun l hl => decide_eq_true (ne_scissors_of_isComment (hcomment l hl))
  have hfilter : (ls.filter fun l => !isComment l) = ls :=
    List.filter_eq_self.2 fun l hl => by simp [hcomment l hl]
  rw [keptLines, htake, hfilter]
  cases ls with
  | nil => rfl
  | cons l ls => exact List.dropWhile_cons_of_neg (by simp [hfirst l rfl])

/-- No line below the scissors counts. -/
theorem keptLines_append_scissors (ls ks : List (List Char)) : keptLines (ls ++ scissors :: ks) = keptLines ls := by
  have htake : (ls ++ scissors :: ks).takeWhile (· ≠ scissors) = ls.takeWhile (· ≠ scissors) := by
    rw [List.takeWhile_append]
    split
    · rename_i hall
      rw [List.takeWhile_cons_of_neg (by simp), List.append_nil, (List.takeWhile_prefix _).eq_of_length hall]
    · rfl
  rw [keptLines, keptLines, htake]

/-- A comment line does not count, wherever it stands. -/
theorem keptLines_append_comment (hcomment : isComment l = true) (hl : l ≠ scissors) (ls ks : List (List Char)) :
    keptLines (ls ++ l :: ks) = keptLines (ls ++ ks) := by
  have htake : ((ls ++ l :: ks).takeWhile (· ≠ scissors)).filter (fun l => !isComment l) =
      ((ls ++ ks).takeWhile (· ≠ scissors)).filter fun l => !isComment l := by
    rw [List.takeWhile_append, List.takeWhile_append]
    split
    · rw [List.takeWhile_cons_of_pos (by simpa using hl), List.filter_append, List.filter_append,
        List.filter_cons_of_neg (by simp [hcomment])]
    · rfl
  rw [keptLines, keptLines, htake]

theorem keptLines_append_nil (ls : List (List Char)) :
    keptLines (ls ++ [[]]) = keptLines ls ∨ keptLines (ls ++ [[]]) = keptLines ls ++ [[]] := by
  rw [keptLines, keptLines, List.takeWhile_append]
  split
  · rename_i hall
    have hself : ls.takeWhile (· ≠ scissors) = ls := (List.takeWhile_prefix _).eq_of_length hall
    have hnil : ([[]] : List (List Char)).takeWhile (· ≠ scissors) = [[]] := rfl
    rw [hself, hnil, List.filter_append, List.dropWhile_append]
    split
    · rename_i hempty
      exact Or.inl (List.isEmpty_iff.1 hempty).symm
    · exact Or.inr rfl
  · exact Or.inl rfl

/-! ## Trimmed lines -/

/-- Lines without the blanks at the end of the text that they make. -/
def trimLines : List (List Char) → List (List Char)
  | [] => []
  | l :: ls =>
    if ls.all Text.allBlank then if Text.allBlank l then [] else [Text.trimEnd l] else l :: trimLines ls

theorem allBlank_join (ls : List (List Char)) : Text.allBlank (Text.join ['\n'] ls) = ls.all Text.allBlank := by
  induction ls with
  | nil => rfl
  | cons l ls ih =>
      cases ls with
      | nil => simp [Text.join]
      | cons k ks =>
          rw [Text.join_cons_cons, Text.allBlank_append, List.all_cons, ← ih]
          rfl

theorem trimLines_ne_nil (h : ls.all Text.allBlank = false) : trimLines ls ≠ [] := by
  cases ls with
  | nil => cases h
  | cons l ls =>
      rw [trimLines]
      split
      · rename_i hls
        split
        · rename_i hl
          simp [hl, hls] at h
        · exact List.cons_ne_nil _ _
      · exact List.cons_ne_nil _ _

theorem trimEnd_join (ls : List (List Char)) :
    Text.trimEnd (Text.join ['\n'] ls) = Text.join ['\n'] (trimLines ls) := by
  induction ls with
  | nil => rfl
  | cons l ls ih =>
      rw [trimLines]
      split
      · rename_i hblank
        have htrim : Text.trimEnd (Text.join ['\n'] (l :: ls)) = Text.trimEnd l := by
          cases ls with
          | nil => rfl
          | cons k ks =>
              rw [← allBlank_join] at hblank
              rw [Text.join_cons_cons]
              exact Text.trimEnd_append_of_allBlank hblank
        rw [htrim]
        split
        · rename_i hl
          exact Text.trimEnd_eq_nil_iff.2 hl
        · rfl
      · rename_i hblank
        have htrim : trimLines ls ≠ [] := trimLines_ne_nil (Bool.eq_false_iff.2 hblank)
        have hls : ls ≠ [] := by
          rintro rfl
          exact htrim rfl
        have hne : Text.trimEnd (Text.join ['\n'] ls) ≠ [] := fun hnil =>
          hblank ((allBlank_join ls).symm.trans (Text.trimEnd_eq_nil_iff.1 hnil))
        rw [Text.join_cons_of_ne_nil l hls, Text.join_cons_of_ne_nil l htrim, ← ih, List.append_cons l,
          List.append_cons l '\n' (Text.trimEnd _)]
        exact Text.dropEndWhile_append_of_ne_nil hne

theorem trimLines_append_nil (ls : List (List Char)) : trimLines (ls ++ [[]]) = trimLines ls := by
  induction ls with
  | nil => rfl
  | cons l ls ih =>
      have hall : (ls ++ [[]]).all Text.allBlank = ls.all Text.allBlank := by simp [Text.allBlank]
      rw [List.cons_append, trimLines, trimLines, hall, ih]

theorem exists_of_mem_trimLines (h : l ∈ trimLines ls) : ∃ k ∈ ls, l <+: k := by
  induction ls with
  | nil => cases h
  | cons k ks ih =>
      rw [trimLines] at h
      split at h
      · split at h
        · cases h
        · obtain rfl := List.mem_singleton.1 h
          exact ⟨k, List.mem_cons_self, Text.isPrefix_dropEndWhile _ _⟩
      · rcases List.mem_cons.1 h with rfl | h
        · exact ⟨l, List.mem_cons_self, List.prefix_rfl⟩
        · obtain ⟨m, hm, hl⟩ := ih h
          exact ⟨m, List.mem_cons_of_mem k hm, hl⟩

theorem allBlank_trimEnd (cs : List Char) : Text.allBlank (Text.trimEnd cs) = Text.allBlank cs := by
  rw [Bool.eq_iff_iff, ← Text.trimEnd_eq_nil_iff, ← Text.trimEnd_eq_nil_iff, Text.trimEnd, Text.trimEnd,
    Text.dropEndWhile_dropEndWhile]

theorem getLast?_trimLines (ls : List (List Char)) : (trimLines ls).getLast? ≠ some [] := by
  induction ls with
  | nil => exact nofun
  | cons l ls ih =>
      rw [trimLines]
      split
      · split
        · exact nofun
        · rename_i hl
          intro hlast
          exact hl (Text.trimEnd_eq_nil_iff.1 (Option.some.inj hlast))
      · rename_i hls
        obtain ⟨k, ks, hks⟩ := List.exists_cons_of_ne_nil (trimLines_ne_nil (Bool.eq_false_iff.2 hls))
        rw [hks] at ih ⊢
        rwa [List.getLast?_cons_cons]

theorem allBlank_head?_trimLines (hfirst : ∀ k, ls.head? = some k → Text.allBlank k = false)
    (h : (trimLines ls).head? = some l) : Text.allBlank l = false := by
  cases ls with
  | nil => cases h
  | cons k ks =>
      rw [trimLines] at h
      split at h
      · split at h
        · cases h
        · cases h
          exact (allBlank_trimEnd k).trans (hfirst k rfl)
      · cases h
        exact hfirst l rfl

/-! ## Stripped messages are clean -/

theorem strip_eq (text : List Char) : strip text = Text.join ['\n'] (trimLines (keptLines (Text.lines text))) :=
  trimEnd_join _

theorem isLine_of_mem_trimLines (h : l ∈ trimLines (keptLines (Text.lines text))) : Text.IsLine l := by
  obtain ⟨k, hk, hl⟩ := exists_of_mem_trimLines h
  exact (Text.isLine_of_mem_lines k (mem_of_mem_keptLines hk).1).of_isPrefix hl

theorem lines_strip (text : List Char) : Text.lines (strip text) = trimLines (keptLines (Text.lines text)) := by
  rw [strip_eq]
  exact Text.lines_join (fun l hl => isLine_of_mem_trimLines hl) (getLast?_trimLines _)

theorem isClean_strip (text : List Char) : IsClean (strip text) where
  newlines := by
    intro c hc hend
    rw [strip_eq] at hc
    rcases Text.mem_of_mem_join hc with hnewline | ⟨l, hl, hcl⟩
    · exact List.mem_singleton.1 hnewline
    · simp [isLine_of_mem_trimLines hl c hcl] at hend
  no_comment := by
    intro l hl
    rw [lines_strip] at hl
    obtain ⟨k, hk, hlk⟩ := exists_of_mem_trimLines hl
    rw [Bool.eq_false_iff]
    intro hcomment
    exact absurd (isComment_of_isPrefix hlk hcomment) (by simp [(mem_of_mem_keptLines hk).2])
  first := by
    intro l hl
    rw [lines_strip] at hl
    exact allBlank_head?_trimLines (fun k hk => allBlank_head?_keptLines hk) hl
  last := Text.dropEndWhile_dropEndWhile _ _

theorem IsClean.getLast?_ne (h : IsClean text) : text.getLast? ≠ some '\n' := by
  intro hlast
  obtain ⟨init, rfl⟩ := List.getLast?_eq_some_iff.1 hlast
  have htrim := h.last
  rw [Text.trimEnd_append_of_allBlank (by decide)] at htrim
  have hlength := (Text.isPrefix_dropEndWhile Text.isBlank init).length_le
  rw [← Text.trimEnd, htrim, List.length_append, List.length_singleton] at hlength
  omega

theorem IsClean.strip_eq_self (h : IsClean text) : strip text = text := by
  rw [strip, keptLines_eq_self h.no_comment h.first, Text.join_lines h.newlines h.getLast?_ne, h.last]

/-- A text is clean exactly if stripping does not change it. -/
theorem strip_eq_self_iff : strip text = text ↔ IsClean text :=
  ⟨fun h => h ▸ isClean_strip text, IsClean.strip_eq_self⟩

/-! ## What does not count -/

theorem strip_append_newline (text : List Char) : strip (text ++ ['\n']) = strip text := by
  rw [strip_eq, strip_eq]
  rcases Text.lines_append_newline_self text with h | h
  · rw [h]
  · rw [h]
    rcases keptLines_append_nil (Text.lines text) with hkept | hkept
    · rw [hkept]
    · rw [hkept, trimLines_append_nil]

theorem strip_append_scissors (text rest : List Char) :
    strip (text ++ '\n' :: (scissors ++ '\n' :: rest)) = strip text := by
  have hscissors : Text.IsLine scissors := by decide
  rw [← strip_append_newline text, strip, strip, Text.lines_append_newline_append, Text.lines_append_newline hscissors,
    keptLines_append_scissors]

theorem strip_append_comment (htext : ∀ c, text.getLast? = some c → c = '\n') (hl : IsCommentLine l)
    (rest : List Char) : strip (text ++ (l ++ '\n' :: rest)) = strip (text ++ rest) := by
  rw [strip, strip, Text.lines_append_of_getLast? htext, Text.lines_append_of_getLast? htext,
    Text.lines_append_newline hl.isLine, keptLines_append_comment hl.comment hl.ne_scissors]

/-- What is left of a text is clean, and a clean text stays as it is. What stands below the scissors does not change what
is left, nor does a comment line that begins the text or stands behind a line feed. -/
theorem stripMessage_stable :
    (∀ t : String, IsClean (stripMessage t).toList ∧ stripMessage (stripMessage t) = stripMessage t ∧
      (stripMessage t = t ↔ IsClean t.toList)) ∧
    (∀ t u : String, stripMessage (t ++ "\n" ++ String.ofList scissors ++ "\n" ++ u) = stripMessage t) ∧
    ∀ a c b : String, (∀ d, a.toList.getLast? = some d → d = '\n') → IsCommentLine c.toList →
      stripMessage (a ++ c ++ "\n" ++ b) = stripMessage (a ++ b) := by
  have hself (t : String) : stripMessage t = t ↔ IsClean t.toList := by
    rw [← strip_eq_self_iff, stripMessage, ← String.toList_inj, String.toList_ofList]
  have hclean (t : String) : IsClean (stripMessage t).toList := by
    rw [stripMessage, String.toList_ofList]
    exact isClean_strip t.toList
  refine ⟨fun t => ⟨hclean t, (hself _).2 (hclean t), hself t⟩, fun t u => ?_, fun a c b ha hc => ?_⟩
  · have htext : (t ++ "\n" ++ String.ofList scissors ++ "\n" ++ u).toList =
        t.toList ++ '\n' :: (scissors ++ '\n' :: u.toList) := by simp
    rw [stripMessage, htext, strip_append_scissors, ← stripMessage]
  · have htext : (a ++ c ++ "\n" ++ b).toList = a.toList ++ (c.toList ++ '\n' :: b.toList) := by simp
    rw [stripMessage, htext, strip_append_comment ha hc, ← String.toList_append, ← stripMessage]

/-- A message below a comment and a blank line, with a comment in its body. -/
theorem stripMessage_stable_commented :
    let front := "# Please enter the message\n\nfeat: add page\n"
    ((∀ d, front.toList.getLast? = some d → d = '\n') ∧ IsCommentLine "# On branch 12-add-page".toList) ∧
      stripMessage (front ++ "# On branch 12-add-page" ++ "\n" ++ "\nbody \n") = "feat: add page\n\nbody" := by
  intro front
  have hlast : front.toList.getLast? = some '\n' := by decide
  have hfront : ∀ d, front.toList.getLast? = some d → d = '\n' := fun d hd =>
    (Option.some.inj (hlast.symm.trans hd)).symm
  have hcomment : IsCommentLine "# On branch 12-add-page".toList := ⟨by decide, by decide, by decide⟩
  refine ⟨⟨hfront, hcomment⟩, ?_⟩
  rw [stripMessage_stable.2.2 front _ "\nbody \n" hfront hcomment]
  decide +kernel

end Conventions.Commit
