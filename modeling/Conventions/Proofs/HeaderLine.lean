import Conventions.Proofs.Text
import Conventions.Proofs.Validation
import Conventions.RuleSet.Default

/-!
# The header line decides

Every check of a commit message looks at its header line only, and so does the question whether the message is about a
merge or a revert. So a verdict is the same for all messages with the same header line.
-/

namespace Conventions

/-! ## Header lines -/

namespace Commit

variable {m m' : String} {cs line : List Char}

/-- Whether a line is the first one of a message: a line feed or nothing follows, after carriage returns, in which the
line itself does not end. -/
structure IsHeaderLine (message line : List Char) : Prop where
  append : ∃ returns rest, (∀ c ∈ returns, c = '\r') ∧ (∀ c, rest.head? = some c → c = '\n') ∧
    line ++ returns ++ rest = message
  no_newline : '\n' ∉ line
  no_return : line.getLast? ≠ some '\r'

theorem headerLine_eq_iff : headerLine cs = line ↔ IsHeaderLine cs line := by
  rw [headerLine, Text.dropEndWhile_eq_iff]
  constructor
  · rintro ⟨⟨returns, hreturns, happend⟩, hlast⟩
    have hsplit : line ++ returns ++ cs.dropWhile (· ≠ '\n') = cs := by
      rw [happend]
      exact List.takeWhile_append_dropWhile
    refine ⟨⟨returns, _, fun c hc => of_decide_eq_true (hreturns c hc), ?_, hsplit⟩, ?_, ?_⟩
    · intro c hc
      have hfirst := List.head?_dropWhile_not (· ≠ '\n') cs
      rw [hc] at hfirst
      simpa using hfirst
    · intro hmem
      exact Text.not_mem_before '\n' cs (happend ▸ List.mem_append_left returns hmem)
    · intro hreturn
      exact absurd (hlast '\r' hreturn) (by simp)
  · rintro ⟨⟨returns, rest, hreturns, hrest, rfl⟩, hnewline, hreturn⟩
    have hline : ∀ c ∈ line ++ returns, decide (c ≠ '\n') = true := by
      refine Text.ne_of_not_mem ?_
      rw [List.mem_append, not_or]
      exact ⟨hnewline, fun h => absurd (hreturns _ h) (by decide)⟩
    have hbefore : Text.before '\n' (line ++ returns ++ rest) = line ++ returns :=
      Text.takeWhile_append_of_head hline fun c hc => by simp [hrest c hc]
    refine ⟨⟨returns, fun c hc => decide_eq_true (hreturns c hc), hbefore.symm⟩, ?_⟩
    intro c hc
    exact decide_eq_false fun he => hreturn (he ▸ hc)

/-- What begins a message, if it has no line end in it, begins the header line. -/
theorem isPrefix_headerLine_iff {w : List Char} (hnewline : '\n' ∉ w) (hreturn : '\r' ∉ w) :
    w <+: headerLine cs ↔ w <+: cs := by
  have hw : ∀ c ∈ w, decide (c = '\r') = false := by
    intro c hc
    have hne : c ≠ '\r' := fun he => hreturn (he ▸ hc)
    simpa using hne
  rw [headerLine, Text.prefix_dropEndWhile_iff hw, Text.isPrefix_before_iff hnewline]

theorem isMerge_iff : isMerge m = true ↔ "Merge ".toList <+: m.toList ∨ "Revert \"".toList <+: m.toList := by
  simp [isMerge]

theorem isMerge_congr (h : headerLine m.toList = headerLine m'.toList) : isMerge m = isMerge m' := by
  have hmerge (n : String) : "Merge ".toList <+: headerLine n.toList ↔ "Merge ".toList <+: n.toList :=
    isPrefix_headerLine_iff (by decide) (by decide)
  have hrevert (n : String) : "Revert \"".toList <+: headerLine n.toList ↔ "Revert \"".toList <+: n.toList :=
    isPrefix_headerLine_iff (by decide) (by decide)
  rw [Bool.eq_iff_iff, isMerge_iff, isMerge_iff, ← hmerge m, ← hrevert m, ← hmerge m', ← hrevert m', h]

theorem header?_congr (h : headerLine m.toList = headerLine m'.toList) (ps : Params) :
    header? m ps = header? m' ps := by
  rw [header?, header?, isMerge_congr h, Header.parse, Header.parse, h]

theorem run_commit_congr (h : headerLine m.toList = headerLine m'.toList) (c : Matcher) (ps : Params) :
    c.run (.commit m) ps = c.run (.commit m') ps := by
  have hheader := header?_congr h ps
  have hseparated : separated? m ps = separated? m' ps := by rw [separated?, separated?, hheader]
  cases c with
  | commitSeparator =>
      show Except.ok (checkSeparator m ps) = Except.ok (checkSeparator m' ps)
      rw [checkSeparator, checkSeparator, hheader]
  | commitType =>
      show checkType m ps = checkType m' ps
      rw [checkType, checkType, hseparated]
  | commitScope =>
      show Except.ok (checkScope m ps) = Except.ok (checkScope m' ps)
      rw [checkScope, checkScope, hseparated]
  | commitHeader =>
      show Except.ok (checkHeading m ps) = Except.ok (checkHeading m' ps)
      rw [checkHeading, checkHeading, hseparated]
  | commitDescription =>
      show Except.ok (checkDescription m ps) = Except.ok (checkDescription m' ps)
      rw [checkDescription, checkDescription, hseparated]
  | _ => rfl

end Commit

/-! ## Verdicts -/

theorem Rule.evaluate_congr {q q' : Request} (h : ∀ (c : Matcher) ps, c.run q ps = c.run q' ps) (r : Rule) :
    r.evaluate q = r.evaluate q' := by
  have hnamed : Matcher.runNamed r.matcher q r.params = Matcher.runNamed r.matcher q' r.params := by
    unfold Matcher.runNamed
    split
    · exact h _ _
    · rfl
  rw [evaluate, evaluate, hnamed]

namespace RuleSet

theorem validate_congr {q q' : Request} (hcategories : q.categories = q'.categories)
    (h : ∀ (c : Matcher) ps, c.run q ps = c.run q' ps) (s : RuleSet) : s.validate q = s.validate q' := by
  rw [validate, validate, applicable_congr hcategories]
  simp only [Rule.evaluate_congr h]

/-- Messages with the same header line have the same verdict. -/
theorem validate_commit_congr {m m' : String} (h : Commit.headerLine m.toList = Commit.headerLine m'.toList)
    (s : RuleSet) : s.validate (.commit m) = s.validate (.commit m') := by
  have hcategories : (Request.commit m).categories = (Request.commit m').categories := rfl
  exact validate_congr hcategories (Commit.run_commit_congr h) s

end RuleSet

namespace Commit

theorem headerLine_of_not_mem {cs : List Char} (h : '\n' ∉ cs) :
    headerLine cs = Text.dropEndWhile (· = '\r') cs := by
  rw [headerLine, Text.before_of_not_mem h]

theorem headerLine_append_newline {cs : List Char} (h : '\n' ∉ cs) (body : List Char) :
    headerLine (cs ++ '\n' :: body) = headerLine cs := by
  rw [headerLine_of_not_mem h, headerLine, Text.before_append h]

theorem headerLine_append_return {cs : List Char} (h : '\n' ∉ cs) : headerLine (cs ++ ['\r']) = headerLine cs := by
  rw [headerLine_of_not_mem h, headerLine_of_not_mem (by simp [h]), Text.dropEndWhile_append_of_all (by simp)]

/-- A body below the header line changes nothing, nor does a carriage return at its end: the verdict of any rule set is
the same, and the message is about a merge or a revert, or left alone by a check, in the same cases. -/
theorem validate_body (s : RuleSet) {h : String} (hnewline : '\n' ∉ h.toList) (body : String) :
    ∀ m ∈ [h ++ "\n" ++ body, h ++ "\r", h ++ "\r\n" ++ body],
      s.validate (.commit m) = s.validate (.commit h) ∧ isMerge m = isMerge h ∧
        ∀ ps, header? m ps = header? h ps := by
  have hline : ∀ m ∈ [h ++ "\n" ++ body, h ++ "\r", h ++ "\r\n" ++ body],
      headerLine m.toList = headerLine h.toList := by
    simp only [List.forall_mem_cons, List.not_mem_nil, false_implies, implies_true, and_true, String.toList_append]
    have hreturn : '\n' ∉ h.toList ++ ['\r'] := by simp [hnewline]
    refine ⟨?_, headerLine_append_return hnewline, ?_⟩
    · rw [List.append_assoc]
      exact headerLine_append_newline hnewline body.toList
    · have hends : "\r\n".toList = ['\r'] ++ ['\n'] := rfl
      rw [hends, ← List.append_assoc, List.append_assoc (h.toList ++ ['\r'])]
      exact (headerLine_append_newline hreturn body.toList).trans (headerLine_append_return hnewline)
  intro m hm
  exact ⟨s.validate_commit_congr (hline m hm), isMerge_congr (hline m hm), header?_congr (hline m hm)⟩

/-- A header that is shorter than the words of a merge, with those words completed in the body. -/
theorem validate_body_merge : '\n' ∉ "Merge".toList ∧
    ∀ m ∈ ["Merge" ++ "\n" ++ " branch", "Merge" ++ "\r", "Merge" ++ "\r\n" ++ " branch"],
      RuleSet.default.validate (.commit m) = RuleSet.default.validate (.commit "Merge") ∧
        isMerge m = isMerge "Merge" ∧ ∀ ps, header? m ps = header? "Merge" ps :=
  ⟨by decide, validate_body RuleSet.default (by decide) " branch"⟩

end Commit

end Conventions
