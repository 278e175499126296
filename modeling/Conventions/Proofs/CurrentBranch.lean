import Conventions.Proofs.MessageFile

/-!
# The current branch

A check without a name asks git for the current branch. The answer names a branch, tells that the head is detached, or is
a failure. Only a head that may be detached and a branch that passes its check let the check exit with zero.
-/

namespace Conventions

theorem Git.isBlankText_iff {text : String} : isBlankText text = true ↔ ∀ c ∈ text.toList, Text.isBlank c = true :=
  List.all_eq_true

theorem Text.trimmed_eq_iff {text inner : String} : trimmed text = inner ↔ IsTrimmed text.toList inner.toList := by
  rw [trimmed, ← trim_eq_iff, ← String.toList_inj, String.toList_ofList]

/-! ## Answers -/

namespace GitOutcome

variable {g : GitOutcome} {name : String}

/-- Whether git tells that the head is detached: it ends with 1 and no error text, or with 0 and no name. -/
def TellsDetached : GitOutcome → Prop
  | .finished code stdout stderr =>
    (code = 1 ∧ Git.isBlankText stderr = true) ∨ (code = 0 ∧ Git.isBlankText stdout = true)
  | _ => False

/-- Whether git names a branch: it ends with 0, and the name is its output without the blanks around it. -/
def TellsBranch (name : String) : GitOutcome → Prop
  | .finished code stdout _ => code = 0 ∧ Git.isBlankText stdout = false ∧ name = Text.trimmed stdout
  | _ => False

/-- Whether an answer neither names a branch nor tells that the head is detached. -/
def Fails (g : GitOutcome) : Prop := ¬g.TellsDetached ∧ ∀ name, ¬g.TellsBranch name

theorem fails_finished_iff {code : Int} {stdout stderr : String} :
    (finished code stdout stderr).Fails ↔ code ≠ 0 ∧ (code = 1 → Git.isBlankText stderr = false) := by
  simp only [Fails, TellsDetached, TellsBranch, not_or, not_and, Bool.not_eq_true]
  constructor
  · rintro ⟨⟨hone, hzero⟩, hnamed⟩
    exact ⟨fun h => hnamed _ h (hzero h) rfl, hone⟩
  · rintro ⟨hcode, hone⟩
    exact ⟨⟨hone, fun h => absurd h hcode⟩, fun _ h => absurd h hcode⟩

theorem currentBranch_eq_detached_iff : Git.currentBranch g = .error .detached ↔ g.TellsDetached := by
  cases g with
  | missing => simp [Git.currentBranch, TellsDetached]
  | timeout => simp [Git.currentBranch, TellsDetached]
  | finished code stdout stderr =>
      simp only [Git.currentBranch, TellsDetached, Bool.and_eq_true, decide_eq_true_eq]
      split
      · rename_i h
        simp [h]
      split
      · rename_i hone hcode
        simp [hone, hcode]
      split
      · rename_i hone hcode hblank
        simp [not_not.1 hcode, hblank]
      · rename_i hone hcode hblank
        simp [hone, hblank]

theorem currentBranch_eq_ok_iff : Git.currentBranch g = .ok name ↔ g.TellsBranch name := by
  cases g with
  | missing => simp [Git.currentBranch, TellsBranch]
  | timeout => simp [Git.currentBranch, TellsBranch]
  | finished code stdout stderr =>
      simp only [Git.currentBranch, TellsBranch, Bool.and_eq_true, decide_eq_true_eq]
      split
      · rename_i h
        simp [h]
      split
      · rename_i hone hcode
        simp [hcode]
      split
      · rename_i hone hcode hblank
        simp [hblank]
      · rename_i hone hcode hblank
        simp [not_not.1 hcode, hblank, eq_comm]

theorem Fails.exists_fault (h : g.Fails) : ∃ f, f ≠ .detached ∧ Git.currentBranch g = .error f := by
  cases hanswer : Git.currentBranch g with
  | ok name => exact absurd (currentBranch_eq_ok_iff.1 hanswer) (h.2 name)
  | error f =>
      refine ⟨f, ?_, rfl⟩
      rintro rfl
      exact h.1 (currentBranch_eq_detached_iff.1 hanswer)

end GitOutcome

/-! ## Runs -/

namespace CommandLine.Invocation

/-- Whether an outcome is the one of a check of the current branch: by what git tells, it skips a head that may be
detached, refuses to check, or is the outcome of a check of the name that git gives. -/
structure ChecksCurrentBranch (i : Invocation) (s : Session) (c : Config) (allowDetached : Bool) (d : Display)
    (o : Outcome) : Prop where
  gitCalls : o.gitCalls = [Git.branchCall]
  counts : Git.currentBranch (s.git Git.branchCall) = .error .detached ↔ (s.git Git.branchCall).TellsDetached
  detached : (s.git Git.branchCall).TellsDetached → o.exitCode = if allowDetached = true then 0 else 2
  named : ∀ name, (s.git Git.branchCall).TellsBranch name →
    { i with command := .branch (some name) allowDetached d }.run s = .ok { o with gitCalls := [] } ∧
      o.Shows s d (c.report [Config.branchItem name] 0) ∧
        o.exitCode = if (c.ruleSet.validate (.branch name)).passes d.failOnWarn = true then 0 else 1
  refused : (s.git Git.branchCall).Fails → o.exitCode = 2
  passed : o.exitCode = 0 → ((s.git Git.branchCall).TellsDetached ∧ allowDetached = true) ∨
    ∃ name, (s.git Git.branchCall).TellsBranch name ∧ (c.ruleSet.validate (.branch name)).passes d.failOnWarn = true

variable {i : Invocation} {s : Session} {c : Config} {allowDetached : Bool} {d : Display} {name : String}

theorem exitCode_currentBranch_of_detached (h : (s.git Git.branchCall).TellsDetached) :
    (i.currentBranch s c allowDetached d).exitCode = if allowDetached = true then 0 else 2 := by
  rw [currentBranch, GitOutcome.currentBranch_eq_detached_iff.2 h]
  cases allowDetached <;> rfl

theorem currentBranch_of_tellsBranch (h : (s.git Git.branchCall).TellsBranch name) :
    i.currentBranch s c allowDetached d = i.check s d c (i.configLog s c) [Config.branchItem name] 0 := by
  rw [currentBranch, GitOutcome.currentBranch_eq_ok_iff.2 h]

theorem exitCode_currentBranch_of_fails (h : (s.git Git.branchCall).Fails) :
    (i.currentBranch s c allowDetached d).exitCode = 2 := by
  obtain ⟨f, hf, hanswer⟩ := h.exists_fault
  rw [currentBranch, hanswer]
  simp [hf, refuse, finish, refusedCode]

theorem run_branch (hc : Config.resolve s.disk (i.root s) i.config = .ok c) (name : Option String) (allowDetached : Bool)
    (d : Display) : { i with command := .branch name allowDetached d }.run s = .ok (i.branch s c name allowDetached d) :=
  withConfig_of_resolve (i := { i with command := .branch name allowDetached d }) hc _

theorem exitCode_check_branchItem (log : List LogLine) :
    (i.check s d c log [Config.branchItem name] 0).exitCode =
      if (c.ruleSet.validate (.branch name)).passes d.failOnWarn = true then 0 else 1 := by
  have hcode := c.exitCode_report_of_passes [Config.branchItem name] 0 d.failOnWarn
  rw [List.all_cons, List.all_nil, Bool.and_true] at hcode
  exact hcode

theorem checksCurrentBranch (hc : Config.resolve s.disk (i.root s) i.config = .ok c) (allowDetached : Bool) (d : Display) :
    i.ChecksCurrentBranch s c allowDetached d (i.branch s c none allowDetached d) where
  gitCalls := rfl
  counts := GitOutcome.currentBranch_eq_detached_iff
  detached h := exitCode_currentBranch_of_detached h
  named name h := by
    have hbranch : i.branch s c none allowDetached d =
        { i.check s d c (i.configLog s c) [Config.branchItem name] 0 with gitCalls := [Git.branchCall] } := by
      rw [branch, currentBranch_of_tellsBranch h]
    rw [hbranch]
    exact ⟨run_branch hc (some name) allowDetached d, ⟨rfl, rfl⟩,
      exitCode_check_branchItem (i := i) (s := s) (i.configLog s c)⟩
  refused h := exitCode_currentBranch_of_fails h
  passed hcode := by
    have hcode : (i.currentBranch s c allowDetached d).exitCode = 0 := hcode
    by_cases hdetached : (s.git Git.branchCall).TellsDetached
    · rw [exitCode_currentBranch_of_detached hdetached] at hcode
      exact Or.inl ⟨hdetached, by simpa using hcode⟩
    by_cases hnamed : ∃ name, (s.git Git.branchCall).TellsBranch name
    · obtain ⟨name, hname⟩ := hnamed
      rw [currentBranch_of_tellsBranch hname, exitCode_check_branchItem] at hcode
      exact Or.inr ⟨name, hname, by simpa using hcode⟩
    · rw [exitCode_currentBranch_of_fails ⟨hdetached, not_exists.1 hnamed⟩] at hcode
      cases hcode

/-- A check without a name asks git for it. It checks the name that git gives, skips or refuses a detached head, and refuses
whenever git fails. A text of git is blank if all its characters are, and a name is its output without blanks at the
ends. -/
theorem run_branch_unnamed (hc : Config.resolve s.disk (i.root s) i.config = .ok c) (allowDetached : Bool) (d : Display) :
    (∃ o, { i with command := .branch none allowDetached d }.run s = .ok o ∧
      i.ChecksCurrentBranch s c allowDetached d o) ∧
      (∀ text, Git.isBlankText text = true ↔ ∀ c ∈ text.toList, Text.isBlank c = true) ∧
      ∀ text name, Text.trimmed text = name ↔ Text.IsTrimmed text.toList name.toList :=
  ⟨⟨_, run_branch hc none allowDetached d, checksCurrentBranch hc allowDetached d⟩, fun _ => Git.isBlankText_iff,
    fun _ _ => Text.trimmed_eq_iff⟩

/-- A session in an empty directory in which git gives an answer. -/
def branchSession (g : GitOutcome) : Session := ⟨⟨⟨"/", ["game"]⟩, []⟩, .owner, fun _ => g, "", .porcelain⟩

/-- A check of the current branch that passes if the head is detached. -/
def branchInvocation : Invocation := ⟨false, none, none, .branch none true ⟨none, false⟩⟩

theorem resolve_branchSession (g : GitOutcome) :
    Config.resolve (branchSession g).disk ⟨"/", ["game"]⟩ none = .ok .default := rfl

/-- Outside a repository, the check is refused although the head may be detached; the main branch passes. -/
theorem run_branch_unnamed_outside :
    (∃ o, branchInvocation.run (branchSession (.finished 128 "" "fatal: not a git repository\n")) = .ok o ∧
        o.exitCode = 2) ∧
      ∃ o, branchInvocation.run (branchSession (.finished 0 "main\n" "")) = .ok o ∧ o.exitCode = 0 := by
  have hruns (g : GitOutcome) := run_branch_unnamed (i := branchInvocation) (s := branchSession g)
    (resolve_branchSession g) true ⟨none, false⟩
  obtain ⟨⟨o, hrun, hchecks⟩, _⟩ := hruns (.finished 128 "" "fatal: not a git repository\n")
  obtain ⟨⟨o', hrun', hchecks'⟩, hblank, htrimmed⟩ := hruns (.finished 0 "main\n" "")
  have hfails : (GitOutcome.finished 128 "" "fatal: not a git repository\n").Fails :=
    GitOutcome.fails_finished_iff.2 ⟨by decide, fun h => absurd h (by decide)⟩
  have hname : Text.trimmed "main\n" = "main" := by
    refine (htrimmed _ _).2 ⟨⟨[], ['\n'], nofun, List.forall_mem_singleton.2 (by decide), by decide⟩,
      fun c hc => ?_, fun c hc => ?_⟩
    · obtain rfl : 'm' = c := Option.some.inj hc
      decide
    · obtain rfl : 'n' = c := Option.some.inj hc
      decide
  have hnamed : (GitOutcome.finished 0 "main\n" "").TellsBranch "main" := by
    refine ⟨rfl, ?_, hname.symm⟩
    rw [← Bool.not_eq_true, hblank]
    exact fun h => absurd (h 'm' (by decide)) (by decide)
  have hpasses : (Config.default.ruleSet.validate (.branch "main")).passes false = true := by decide +kernel
  obtain ⟨_, _, hcode⟩ := hchecks'.named "main" hnamed
  rw [if_pos hpasses] at hcode
  exact ⟨⟨o, hrun, hchecks.refused hfails⟩, ⟨o', hrun', hcode⟩⟩

end CommandLine.Invocation

end Conventions
