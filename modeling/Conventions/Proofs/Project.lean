import Conventions.Proofs.Ignore

/-!
# Reports on projects

A check of a project accounts for every file of the list: it is skipped, or it has one entry for its place. The entries
for the identifiers that the sources declare come behind them, file by file and line by line, and do not change them.
-/

namespace Conventions

/-! ## Declarations and their lines -/

namespace Declaration

variable {find? : List Char → Option (List Char × IdentifierKind)}

theorem ofLinesFrom_eq_filterMap (n : Nat) (ls : List (List Char)) : ofLinesFrom find? n ls =
    (ls.zipIdx n).filterMap fun l => (find? l.1).map fun d => ⟨String.ofList d.1, d.2, l.2⟩ := by
  induction ls generalizing n with
  | nil => rfl
  | cons l ls ih =>
      rw [ofLinesFrom, List.zipIdx_cons, List.filterMap_cons]
      cases find? l with
      | none => exact ih (n + 1)
      | some d => exact congrArg _ (ih (n + 1))

theorem pairwise_zipIdx (n : Nat) (ls : List (List Char)) : (ls.zipIdx n).Pairwise fun k l => k.2 < l.2 := by
  induction ls generalizing n with
  | nil => exact .nil
  | cons l ls ih =>
      rw [List.zipIdx_cons, List.pairwise_cons]
      exact ⟨fun k hk => List.le_snd_of_mem_zipIdx hk, ih (n + 1)⟩

theorem pairwise_line_ofLinesFrom (n : Nat) (ls : List (List Char)) :
    (ofLinesFrom find? n ls).Pairwise fun d e => d.line < e.line := by
  rw [ofLinesFrom_eq_filterMap]
  refine (pairwise_zipIdx n ls).filterMap _ ?_
  intro k l hlt d hd e he
  obtain ⟨_, _, rfl⟩ := Option.map_eq_some_iff.1 hd
  obtain ⟨_, _, rfl⟩ := Option.map_eq_some_iff.1 he
  exact hlt

end Declaration

theorem Source.pairwise_line_declarations (path text : String) :
    (declarations path text).Pairwise fun d e => d.line < e.line := by
  simp only [declarations]
  split
  · exact Declaration.pairwise_line_ofLinesFrom 1 _
  · split
    · exact Declaration.pairwise_line_ofLinesFrom 1 _
    · exact .nil

/-! ## The items of a project -/

namespace Config

/-- The entry for the place of a file, with the verdict on that place. -/
def pathEntry (c : Config) (path : String) : ReportEntry :=
  ⟨⟨"path", path, some path, none⟩, c.ruleSet.validate (.ofPath path none)⟩

/-- The entry for an identifier that a file declares, with the verdict on that identifier. -/
def declarationEntry (c : Config) (file : String) (d : Declaration) : ReportEntry :=
  ⟨⟨"identifier", d.name, some file, some d.line⟩, c.ruleSet.validate (.identifier d.name d.kind)⟩

/-- The declarations of a file in a project: none unless it is a source that is not ignored and can be read. -/
def declared (c : Config) (disk : Disk) (root : Path) (file : String) : List Declaration :=
  if Source.isSource file && !c.ignores file then
    match sourceText? disk root file with
    | some text => Source.declarations file text
    | none => []
  else []

variable (c : Config) (disk : Disk) (root : Path) (files : List String)

theorem pairwise_line_declared (file : String) : (c.declared disk root file).Pairwise fun d e => d.line < e.line := by
  rw [declared]
  split
  · cases sourceText? disk root file with
    | none => exact .nil
    | some text => exact Source.pairwise_line_declarations file text
  · exact .nil

theorem sourceItems_eq : c.sourceItems disk root files =
    files.flatMap fun f => (c.declared disk root f).map (declarationItem f) := by
  induction files with
  | nil => simp only [sourceItems, sources, List.filter_nil, List.flatMap_nil]
  | cons f files ih =>
      rw [List.flatMap_cons, ← ih, sourceItems, sourceItems, sources, sources, List.filter_cons, declared]
      split
      · rw [List.flatMap_cons]
        cases sourceText? disk root f with
        | none => simp only [List.map_nil]
        | some text => simp only
      · simp only [List.map_nil, List.nil_append]

/-- The report on a project, if there are workers for it. -/
def projectReport (identifiers : Bool) : Report :=
  let checked := c.projectItems disk root files identifiers
  c.report checked.1 checked.2

theorem checkProject_eq {workers : Option Int} (h : ∀ n ∈ workers, 0 < n) (identifiers : Bool) :
    c.checkProject disk root files identifiers workers = .ok (c.projectReport disk root files identifiers) := by
  have hnone : (workers.any fun n => decide (n ≤ 0)) = false := by
    cases workers with
    | none => rfl
    | some n => simpa using h n rfl
  simp only [checkProject, run, RuleSet.checkWorkers, hnone, Bool.and_false, Bool.false_eq_true, if_false]
  rfl

theorem entries_projectReport_places : (c.projectReport disk root files false).entries =
    ((files.map Path.toSlashes).filter fun p => !c.ignores p).map c.pathEntry := by
  simp only [projectReport, projectItems, pathItems_eq, Bool.false_eq_true, if_false, List.append_nil, entries_report,
    List.map_map]
  rfl

theorem entries_projectReport_identifiers : (c.projectReport disk root files true).entries =
    (c.projectReport disk root files false).entries ++
      files.flatMap fun f => (c.declared disk root f).map (c.declarationEntry f) := by
  simp only [projectReport, projectItems, Bool.false_eq_true, if_false, if_true, List.append_nil, entries_report,
    List.map_append, sourceItems_eq, List.map_flatMap, List.map_map]
  rfl

/-- What the report on a project accounts for, with the identifiers and without them. -/
structure Accounts (report places : Report) : Prop where
  places_eq : places.entries = ((files.map Path.toSlashes).filter fun p => !c.ignores p).map c.pathEntry
  entries_eq : report.entries =
    places.entries ++ files.flatMap fun f => (c.declared disk root f).map (c.declarationEntry f)
  lines : ∀ f ∈ files, (c.declared disk root f).Pairwise fun d e => d.line < e.line
  skipped_eq : report.skipped = places.skipped
  count : places.entries.length + places.skipped = files.length

/-- A check of a project loses no file and no identifier and adds none: the entries for the places of the files that are
not ignored come first, in order, the entries for the identifiers follow file by file and line by line, each with the
verdict on its own request, and every other file is counted as skipped. -/
theorem checkProject_accounts {workers : Option Int} (h : ∀ n ∈ workers, 0 < n) :
    ∃ report places : Report, c.checkProject disk root files true workers = .ok report ∧
      c.checkProject disk root files false workers = .ok places ∧ c.Accounts disk root files report places := by
  refine ⟨_, _, c.checkProject_eq disk root files h true, c.checkProject_eq disk root files h false, ?_⟩
  refine ⟨c.entries_projectReport_places disk root files, c.entries_projectReport_identifiers disk root files,
    fun f _ => c.pairwise_line_declared disk root f, rfl, ?_⟩
  have hskipped : (c.projectReport disk root files false).skipped = ((files.map Path.toSlashes).filter c.ignores).length := by
    simp only [projectReport, projectItems, pathItems_eq]
    rfl
  rw [c.entries_projectReport_places disk root files, hskipped, List.length_map, Nat.add_comm]
  exact (List.length_eq_length_filter_add c.ignores).symm.trans (List.length_map _)

/-- A project with a script that can be read, and one that is not valid text. -/
def sampleDisk : Disk :=
  ⟨⟨"/", ["game"]⟩,
    [(["game", "scripts", "helpers.gd"], .file (some "var speed\n\nfunc Run():\n") 0o644),
      (["game", "scripts", "broken.gd"], .file none 0o644)]⟩

/-- A list with a repeated script, a note that is ignored, a script that is not valid text and one that is missing. -/
theorem checkProject_accounts_sample : ∃ report places : Report,
    let files := ["scripts/helpers.gd", "notes.md", "scripts\\broken.gd", "scripts/helpers.gd", "scripts/missing.gd"]
    Config.default.checkProject sampleDisk ⟨"/", ["game"]⟩ files true (some 4) = .ok report ∧
      Config.default.checkProject sampleDisk ⟨"/", ["game"]⟩ files false (some 4) = .ok places ∧
        Config.default.Accounts sampleDisk ⟨"/", ["game"]⟩ files report places :=
  checkProject_accounts .default sampleDisk ⟨"/", ["game"]⟩ _ (by decide)

end Config

end Conventions
