import Conventions.CommandLine.Outcome
import Conventions.Proofs.Commit
import Conventions.Proofs.HeaderLine
import Conventions.Proofs.Report
import Conventions.Proofs.Stripped

/-!
# Messages that are given and messages in files

The message in a file loses its comments, its blank lines at the start and its blanks at the end, and each of its lines
ends at the first line boundary. What is left of a header line is enough for the checks if the colon and the start of the
description are left. So a message has the same rules and the same exit code whether it is given or lies in a file.
-/

namespace Conventions

/-! ## The message in a file -/

namespace Commit

variable {text : List Char}

/-- Whether enough of the header of a text stands in front of the first line boundary: the line is not blank and no
comment, it has the colon if the header has one, and something of the description if there is any. -/
structure ShowsHeader (text : List Char) : Prop where
  no_return : '\r' ∉ text
  no_comment : isComment text = false
  not_blank : Text.allBlank (Text.firstLine text) = false
  colon : ':' ∈ Text.before '\n' text → ':' ∈ Text.firstLine text
  description : Text.allBlank (Text.after ':' (Text.firstLine text)) = true →
    Text.allBlank (Text.after ':' (Text.before '\n' text)) = true

theorem headerLine_eq_self {line : List Char} (hnewline : '\n' ∉ line) (hreturn : '\r' ∉ line) :
    headerLine line = line := by
  rw [headerLine_of_not_mem hnewline, Text.dropEndWhile_of_not_mem hreturn]

namespace ShowsHeader

theorem headerLine_eq (h : ShowsHeader text) : headerLine text = Text.before '\n' text :=
  Text.dropEndWhile_of_not_mem fun hm => h.no_return ((List.takeWhile_prefix _).subset hm)

theorem strip_eq (h : ShowsHeader text) : strip text = Text.trimEnd (Text.firstLine text) ∨
    ∃ rest, strip text = Text.firstLine text ++ '\n' :: rest := by
  have hne : text ≠ [] := by
    rintro rfl
    cases h.not_blank
  have hcomment : isComment (Text.firstLine text) = false := by
    rw [Bool.eq_false_iff]
    intro hc
    have htext := isComment_of_isPrefix (List.takeWhile_prefix _) hc
    simp [h.no_comment] at htext
  obtain ⟨ls, hlines⟩ := Text.lines_eq_cons hne
  obtain ⟨kept, hkept⟩ := keptLines_cons hcomment h.not_blank ls
  rw [strip, hlines, hkept]
  cases kept with
  | nil => exact Or.inl rfl
  | cons k ks =>
      rw [Text.join_cons_cons]
      exact Text.trimEnd_append_cons _ _ _

/-- The header line of the message in a file is the first line, the end of which may be trimmed. -/
theorem headerLine_strip (h : ShowsHeader text) : headerLine (strip text) = Text.firstLine text ∨
    headerLine (strip text) = strip text ∧ strip text = Text.trimEnd (Text.firstLine text) := by
  have hnewline : '\n' ∉ Text.firstLine text := Text.not_mem_firstLine (by decide)
  have hreturn : '\r' ∉ Text.firstLine text := Text.not_mem_firstLine (by decide)
  rcases h.strip_eq with htrim | ⟨rest, hrest⟩
  · have hbegins : strip text <+: Text.firstLine text := htrim ▸ Text.isPrefix_dropEndWhile _ _
    refine Or.inr ⟨headerLine_eq_self ?_ ?_, htrim⟩
    · exact fun hm => hnewline (hbegins.subset hm)
    · exact fun hm => hreturn (hbegins.subset hm)
  · left
    rw [hrest, headerLine_append_newline hnewline, headerLine_eq_self hnewline hreturn]

theorem exists_headerLine_append (h : ShowsHeader text) :
    ∃ blanks, Text.allBlank blanks = true ∧ headerLine (strip text) ++ blanks = Text.firstLine text := by
  rcases h.headerLine_strip with hline | ⟨hself, htrim⟩
  · exact ⟨[], rfl, by rw [hline, List.append_nil]⟩
  · rw [hself, htrim]
    exact Text.exists_trimEnd_append _

/-- What begins a text begins its message, unless its end is trimmed and nothing else is left. -/
theorem isPrefix_strip_iff (h : ShowsHeader text) {w : List Char} (hw : w.any Text.isLineEnd = false)
    (hleft : w <+: text → strip text = Text.trimEnd w → Text.trimEnd w = w) : w <+: strip text ↔ w <+: text := by
  have hnot (c : Char) (hc : Text.isLineEnd c = true) : c ∉ w := fun hm => List.any_eq_false.1 hw c hm hc
  have hfirst : w <+: Text.firstLine text ↔ w <+: text :=
    ⟨fun hp => hp.trans (List.takeWhile_prefix _), Text.isPrefix_firstLine hw⟩
  -- both sides are about the first line, with its end trimmed or not
  rw [← isPrefix_headerLine_iff (hnot '\n' (by decide)) (hnot '\r' (by decide)), ← hfirst]
  rcases h.headerLine_strip with hline | ⟨hself, htrim⟩
  · rw [hline]
  · obtain ⟨blanks, hblanks, happend⟩ := Text.exists_trimEnd_append (Text.firstLine text)
    rw [hself, ← happend, ← htrim]
    refine ⟨fun hp => hp.trans (List.prefix_append _ blanks), fun hp => ?_⟩
    have hself : Text.trimEnd (strip text) = strip text := htrim ▸ Text.dropEndWhile_dropEndWhile _ _
    rcases Text.isPrefix_append_blanks hself hblanks hp with hp' | hword
    · exact hp'
    · have htext : w <+: text := hfirst.1 (by rw [← happend, ← htrim]; exact hp)
      rw [← hword, hleft htext hword.symm]

end ShowsHeader

theorem isMerge_stripMessage {m : String} (h : ShowsHeader m.toList)
    (hmerge : isMerge m = true → stripMessage m ≠ "Merge") : isMerge (stripMessage m) = isMerge m := by
  have hstrip : (stripMessage m).toList = strip m.toList := String.toList_ofList
  rw [Bool.eq_iff_iff, isMerge_iff, isMerge_iff, hstrip]
  refine or_congr (h.isPrefix_strip_iff (by decide) ?_) (h.isPrefix_strip_iff (by decide) ?_)
  · intro hm hword
    have hleft : strip m.toList = "Merge".toList := hword.trans (by decide)
    exact absurd (String.toList_inj.1 (hstrip.trans hleft)) (hmerge (isMerge_iff.2 (Or.inl hm)))
  · exact fun _ _ => by decide

/-! ## Headers that the checks treat alike -/

/-- Whether two headers are both without a colon, or have the same left part and right parts that start alike. -/
inductive Header.Alike : Header → Header → Prop
  | bare (left left' : List Char) : Alike ⟨left, none⟩ ⟨left', none⟩
  | split (left : List Char) {right right' : List Char} (blank : Text.allBlank right = Text.allBlank right')
      (head : Text.allBlank right = false → right.head? = right'.head?) :
      Alike ⟨left, some right⟩ ⟨left, some right'⟩

namespace Header

theorem Alike.trans {h₁ h₂ h₃ : Header} (h : Alike h₁ h₂) (h' : Alike h₂ h₃) : Alike h₁ h₃ := by
  cases h with
  | bare left left' =>
      cases h' with
      | bare _ left'' => exact .bare left left''
  | split left blank head =>
      cases h' with
      | split _ blank' head' =>
          exact .split left (blank.trans blank') fun hr => (head hr).trans (head' (blank ▸ hr))

theorem alike_ofLine_append {line rest : List Char} (hcolon : ':' ∈ line ++ rest → ':' ∈ line)
    (hblank : ':' ∈ line → Text.allBlank (Text.after ':' line) = true → Text.allBlank rest = true) :
    Alike (ofLine line) (ofLine (line ++ rest)) := by
  by_cases hline : ':' ∈ line
  · have hblank := hblank hline
    obtain ⟨left, right, hleft, rfl⟩ := exists_append_of_mem hline
    rw [Text.after_append hleft] at hblank
    rw [List.append_assoc, List.cons_append, ofLine_append hleft, ofLine_append hleft]
    refine .split left ?_ ?_
    · rw [Text.allBlank_append]
      cases hright : Text.allBlank right with
      | true => rw [hblank hright, Bool.true_and]
      | false => rfl
    · intro hright
      cases right with
      | nil => cases hright
      | cons c right => rfl
  · rw [ofLine_of_not_mem hline, ofLine_of_not_mem (fun h => hline (hcolon h))]
    exact .bare line (line ++ rest)

variable {left right right' : List Char}

theorem isSome_descriptionMismatch : (descriptionMismatch ⟨left, some right⟩).isSome = Text.allBlank right := by
  rw [descriptionMismatch, allBlank_description]
  cases Text.allBlank right <;> rfl

theorem isSome_separatorMismatch {requireSpace : Bool} :
    (separatorMismatch ⟨left, some right⟩ requireSpace).isSome =
      (requireSpace && !Text.allBlank right && decide (right.head? ≠ some ' ')) := by
  rw [Bool.eq_iff_iff]
  exact Option.isSome_ite

theorem Alike.isSome_descriptionMismatch (halike : Alike ⟨left, some right⟩ ⟨left, some right'⟩) :
    (descriptionMismatch ⟨left, some right⟩).isSome = (descriptionMismatch ⟨left, some right'⟩).isSome := by
  rw [Header.isSome_descriptionMismatch, Header.isSome_descriptionMismatch]
  cases halike with
  | split _ blank _ => exact blank

theorem isSome_separatorMismatch_congr {h h' : Header} (halike : Alike h h') (requireSpace : Bool) :
    (separatorMismatch h requireSpace).isSome = (separatorMismatch h' requireSpace).isSome := by
  cases halike with
  | bare left left' => rfl
  | split left blank head =>
      rename_i right right'
      rw [isSome_separatorMismatch, isSome_separatorMismatch, ← blank]
      cases hright : Text.allBlank right with
      | true => simp
      | false => rw [head hright]

end Header

section Alike

variable {m m' : String} {ps : Params}

/-- Whether two messages are both left alone, or have headers that the checks treat alike. -/
def TreatedAlike (m m' : String) (ps : Params) : Prop := Option.Rel Header.Alike (header? m ps) (header? m' ps)

theorem treatedAlike (hmerge : isMerge m = isMerge m') (halike : Header.Alike (Header.parse m) (Header.parse m')) :
    TreatedAlike m m' ps := by
  rw [TreatedAlike, header?, header?, hmerge]
  split
  · exact .none
  · exact .some halike

theorem TreatedAlike.separated? (h : TreatedAlike m m' ps) :
    Commit.separated? m ps = none ∧ Commit.separated? m' ps = none ∨
      ∃ left right right', Header.Alike ⟨left, some right⟩ ⟨left, some right'⟩ ∧
        Commit.separated? m ps = some ⟨left, some right⟩ ∧ Commit.separated? m' ps = some ⟨left, some right'⟩ := by
  rw [TreatedAlike] at h
  rw [Commit.separated?, Commit.separated?]
  generalize header? m ps = x at h ⊢
  generalize header? m' ps = x' at h ⊢
  cases h with
  | none => exact Or.inl ⟨rfl, rfl⟩
  | some halike =>
      cases halike with
      | bare left left' => exact Or.inl ⟨rfl, rfl⟩
      | split left blank head => exact Or.inr ⟨left, _, _, .split left blank head, rfl, rfl⟩

theorem TreatedAlike.checkSeparator (h : TreatedAlike m m' ps) :
    (Commit.checkSeparator m ps).isSome = (Commit.checkSeparator m' ps).isSome := by
  rw [TreatedAlike] at h
  rw [Commit.checkSeparator, Commit.checkSeparator]
  generalize header? m ps = x at h ⊢
  generalize header? m' ps = x' at h ⊢
  cases h with
  | none => rfl
  | some halike => exact Header.isSome_separatorMismatch_congr halike _

/-- The checks find something in both of two messages that are treated alike, or in neither. -/
theorem isSome_run_commit_congr (h : TreatedAlike m m' ps) (c : Matcher) :
    (c.run (.commit m) ps).map Option.isSome = (c.run (.commit m') ps).map Option.isSome := by
  have hseparator : (Except.ok (checkSeparator m ps).isSome : Except MatchFailure Bool) =
      .ok (checkSeparator m' ps).isSome := congrArg Except.ok h.checkSeparator
  -- only the first check looks at a header without a colon, and three of the others only at the left part
  rcases h.separated? with ⟨hm, hm'⟩ | ⟨left, right, right', halike, hm, hm'⟩
  · cases c with
    | commitSeparator => exact hseparator
    | _ => simp [Matcher.run, checkType, checkScope, checkHeading, checkDescription, hm, hm']
  · cases c with
    | commitSeparator => exact hseparator
    | commitType =>
        simp only [Matcher.run, checkType, hm, hm']
        rfl
    | commitScope =>
        simp only [Matcher.run, checkScope, hm, hm']
        rfl
    | commitHeader =>
        simp only [Matcher.run, checkHeading, hm, hm']
        rfl
    | commitDescription =>
        simp only [Matcher.run, checkDescription, hm, hm', Option.bind_some]
        exact congrArg Except.ok halike.isSome_descriptionMismatch
    | _ => rfl

end Alike

theorem alike_parse_stripMessage {m : String} (h : ShowsHeader m.toList) :
    Header.Alike (Header.parse (stripMessage m)) (Header.parse m) := by
  obtain ⟨blanks, hblanks, hline⟩ := h.exists_headerLine_append
  obtain ⟨rest, hrest⟩ := Text.firstLine_prefix_before m.toList
  have htrimmed : Header.Alike (Header.ofLine (headerLine (strip m.toList))) (Header.ofLine (Text.firstLine m.toList)) := by
    have hcolon : ':' ∉ blanks := fun hm => absurd (List.all_eq_true.1 hblanks ':' hm) (by decide)
    rw [← hline]
    refine Header.alike_ofLine_append (fun hm => ?_) fun _ _ => hblanks
    exact (List.mem_append.1 hm).resolve_right hcolon
  have hcut : Header.Alike (Header.ofLine (Text.firstLine m.toList)) (Header.ofLine (Text.before '\n' m.toList)) := by
    have hdescription := h.description
    rw [← hrest] at hdescription ⊢
    refine Header.alike_ofLine_append (fun hm => h.colon (hrest ▸ hm)) fun hm hblank => ?_
    have hall := hdescription hblank
    rw [Text.after_append_of_mem hm, Text.allBlank_append, Bool.and_eq_true] at hall
    exact hall.2
  rw [Header.parse, Header.parse, h.headerLine_eq, stripMessage, String.toList_ofList]
  exact htrimmed.trans hcut

theorem grades_validate_stripMessage {m : String} (h : ShowsHeader m.toList)
    (hmerge : isMerge m = true → stripMessage m ≠ "Merge") (s : RuleSet) :
    (s.validate (.commit (stripMessage m))).grades = (s.validate (.commit m)).grades := by
  have hcategories : (Request.commit (stripMessage m)).categories = (Request.commit m).categories := by
    simp only [Request.categories]
  refine RuleSet.grades_validate_congr hcategories (fun c ps => ?_) s
  exact isSome_run_commit_congr (treatedAlike (isMerge_stripMessage h hmerge) (alike_parse_stripMessage h)) c

end Commit

/-! ## Runs -/

namespace CommandLine

/-- Whether an outcome shows a report, in the format and with the exit code of a display. -/
structure Outcome.Shows (o : Outcome) (s : Session) (d : Display) (r : Report) : Prop where
  exitCode : o.exitCode = r.exitCode d.failOnWarn
  output : o.output = printed (r.render (d.format.getD s.format))

namespace Invocation

/-- The report on a message that is given. -/
def givenReport (c : Config) (m : String) : Report := c.report [Config.commitItem m none] 0

/-- The report on the message in a file with a text. -/
def fileReport (c : Config) (file : Path) (text : String) : Report :=
  c.report [Config.commitItem (Commit.stripMessage text) (some file.text)] 0

variable {i : Invocation} {s : Session} {c : Config} {file : Path} {m : String}

theorem shows_check (d : Display) (log : List LogLine) (items : List CheckItem) (skipped : Nat) :
    (i.check s d c log items skipped).Shows s d (c.report items skipped) := ⟨rfl, rfl⟩

theorem withConfig_of_resolve (hc : Config.resolve s.disk (i.root s) i.config = .ok c)
    (k : Config → Except Crash Outcome) : i.withConfig s k = k c := by
  rw [withConfig, hc]

theorem messageIn_eq {disk : Disk} {place : List String} {mode : Nat}
    (hfile : disk.find file = .ok (place, .file (some m) mode)) (hreturn : '\r' ∉ m.toList) :
    messageIn disk file = .ok (Commit.stripMessage m) := by
  have hread : disk.read file = .ok (some m) := by
    rw [Disk.read, hfile]
    simp only [Option.map_some, Text.unifyNewlines_of_not_mem hreturn, String.ofList_toList]
  rw [messageIn, hread]

theorem exists_run_commit_given (hc : Config.resolve s.disk (i.root s) i.config = .ok c) (m : String) (d : Display) :
    ∃ o, { i with command := .commit (some m) none d }.run s = .ok o ∧ o.Shows s d (givenReport c m) :=
  ⟨_, withConfig_of_resolve (i := { i with command := .commit (some m) none d }) hc _, shows_check d _ _ 0⟩

theorem exists_run_commit_file (hc : Config.resolve s.disk (i.root s) i.config = .ok c)
    (hread : messageIn s.disk file = .ok (Commit.stripMessage m)) (other : Option String) (d : Display) :
    ∃ o, { i with command := .commit other (some file) d }.run s = .ok o ∧ o.Shows s d (fileReport c file m) := by
  let j : Invocation := { i with command := .commit other (some file) d }
  have hrun : j.run s = j.withConfig s fun c => j.commit s c (other.getD "") (some file) d := by
    cases other <;> rfl
  refine ⟨_, hrun.trans ((withConfig_of_resolve (i := j) hc _).trans ?_), shows_check (i := j) d (j.configLog s c) _ 0⟩
  rw [commit, hread]

theorem grades_fileReport (c : Config) (file : Path) (h : Commit.ShowsHeader m.toList)
    (hmerge : Commit.isMerge m = true → Commit.stripMessage m ≠ "Merge") :
    (fileReport c file m).grades = (givenReport c m).grades := by
  rw [fileReport, givenReport, Report.grades, Report.grades, Config.entries_report, Config.entries_report]
  exact congrArg (fun gs => [gs]) (Commit.grades_validate_stripMessage h hmerge c.ruleSet)

/-- A message that shows its header is checked alike whether it is given or lies in a file, unless it is about a merge
and nothing but the word for it is left in the file. -/
theorem run_commit_agrees (hc : Config.resolve s.disk (i.root s) i.config = .ok c) {place : List String} {mode : Nat}
    (hfile : s.disk.find file = .ok (place, .file (some m) mode)) (h : Commit.ShowsHeader m.toList)
    (hmerge : Commit.isMerge m = true → Commit.stripMessage m ≠ "Merge") (other : Option String) (d : Display) :
    ∃ o o' : Outcome,
      { i with command := .commit (some m) none d }.run s = .ok o ∧
        { i with command := .commit other (some file) d }.run s = .ok o' ∧
          o.Shows s d (givenReport c m) ∧ o'.Shows s d (fileReport c file m) ∧
            (fileReport c file m).ruleIds = (givenReport c m).ruleIds ∧ o'.exitCode = o.exitCode := by
  have hgrades := grades_fileReport c file h hmerge
  obtain ⟨o, hrun, hshows⟩ := exists_run_commit_given hc m d
  obtain ⟨o', hrun', hshows'⟩ := exists_run_commit_file hc (messageIn_eq hfile h.no_return) other d
  refine ⟨o, o', hrun, hrun', hshows, hshows', Report.ruleIds_congr hgrades, ?_⟩
  rw [hshows.exitCode, hshows'.exitCode, Report.exitCode_congr hgrades]

/-- A session in a directory with a message in a file. -/
def messageSession (text : String) : Session :=
  ⟨⟨⟨"/", ["game"]⟩, [(["game", "message"], .file (some text) 0o644)]⟩, .owner, fun _ => .missing, "", .porcelain⟩

/-- A check of a message, with the default configuration. -/
def messageInvocation (message : Option String) (file : Option Path) : Invocation :=
  ⟨false, none, none, .commit message file ⟨none, false⟩⟩

theorem resolve_messageSession (text : String) :
    Config.resolve (messageSession text).disk ⟨"/", ["game"]⟩ none = .ok .default := rfl

theorem find_messageSession (text : String) : (messageSession text).disk.find ⟨"", ["message"]⟩ =
    .ok (["game", "message"], .file (some text) 0o644) := rfl

/-- A message with a vertical tab in its description, blanks at its end and a body. -/
theorem run_commit_agrees_tab : ∃ o o' : Outcome,
    (messageInvocation (some "feat: add\x0bpage \n\nbody\n") none).run
        (messageSession "feat: add\x0bpage \n\nbody\n") = .ok o ∧
      (messageInvocation none (some ⟨"", ["message"]⟩)).run (messageSession "feat: add\x0bpage \n\nbody\n") = .ok o' ∧
        o'.exitCode = o.exitCode := by
  obtain ⟨o, o', hrun, hrun', _, _, _, hcode⟩ := run_commit_agrees (i := messageInvocation none none)
    (s := messageSession "feat: add\x0bpage \n\nbody\n") (resolve_messageSession _) (find_messageSession _)
    ⟨by decide, by decide, by decide, by decide, by decide⟩ (by decide) none ⟨none, false⟩
  exact ⟨o, o', hrun, hrun', hcode⟩

/-- The exit codes of a message with a first line and without comments, as it is given and in a file. -/
structure HasExitCodes (m : String) (code code' : Nat) : Prop where
  no_return : '\r' ∉ m.toList
  no_comments : ∀ l ∈ Text.splitOn '\n' m.toList, Commit.isComment l = false
  not_blank : Text.allBlank (Text.before '\n' m.toList) = false
  given : ∃ o, (messageInvocation (some m) none).run (messageSession m) = .ok o ∧ o.exitCode = code
  in_file : ∃ o, (messageInvocation none (some ⟨"", ["message"]⟩)).run (messageSession m) = .ok o ∧ o.exitCode = code'

theorem exists_messageInvocation_given (m : String) :
    ∃ o, (messageInvocation (some m) none).run (messageSession m) = .ok o ∧
      o.exitCode = (givenReport .default m).exitCode false := by
  obtain ⟨o, hrun, hshows⟩ := exists_run_commit_given (i := messageInvocation none none) (s := messageSession m)
    (resolve_messageSession m) m ⟨none, false⟩
  exact ⟨o, hrun, hshows.exitCode⟩

theorem exists_messageInvocation_file {m : String} (h : '\r' ∉ m.toList) :
    ∃ o, (messageInvocation none (some ⟨"", ["message"]⟩)).run (messageSession m) = .ok o ∧
      o.exitCode = (fileReport .default ⟨"", ["message"]⟩ m).exitCode false := by
  obtain ⟨o, hrun, hshows⟩ := exists_run_commit_file (i := messageInvocation none none) (s := messageSession m)
    (resolve_messageSession m) (messageIn_eq (find_messageSession m) h) none ⟨none, false⟩
  exact ⟨o, hrun, hshows.exitCode⟩

/-- The end of a line is trimmed in a file only, and a file has more line boundaries: one message fails only in a file,
the other one only as it is given. -/
theorem hasExitCodes_trimmed : HasExitCodes "Merge " 0 1 ∧ HasExitCodes "\x0bfeat: add page" 1 0 := by
  have hgiven : (givenReport .default "Merge ").exitCode false = 0 ∧
      (givenReport .default "\x0bfeat: add page").exitCode false = 1 := by
    rw [givenReport, givenReport, Config.exitCode_report, Config.exitCode_report]
    decide +kernel
  have hfile : (fileReport .default ⟨"", ["message"]⟩ "Merge ").exitCode false = 1 ∧
      (fileReport .default ⟨"", ["message"]⟩ "\x0bfeat: add page").exitCode false = 0 := by
    rw [fileReport, fileReport, Config.exitCode_report, Config.exitCode_report]
    decide +kernel
  refine ⟨⟨by decide, by decide, by decide, ?_, ?_⟩, ⟨by decide, by decide, by decide, ?_, ?_⟩⟩
  · exact hgiven.1 ▸ exists_messageInvocation_given "Merge "
  · exact hfile.1 ▸ exists_messageInvocation_file (by decide)
  · exact hgiven.2 ▸ exists_messageInvocation_given "\x0bfeat: add page"
  · exact hfile.2 ▸ exists_messageInvocation_file (by decide)

end Invocation

end CommandLine

end Conventions
