import Conventions.Proofs.Project

/-!
# Sources and the places of files

The place of a file is checked under its path with slashes, and the globs of ignored files are matched against that
path. The identifiers of a file are taken under the path as it is listed. The two agree exactly on the paths without
backslashes.
-/

namespace Conventions

/-- Whether a report has an entry of a kind about a file. -/
def Report.HasEntry (r : Report) (kind file : String) : Prop :=
  ∃ e ∈ r.entries, e.target.kind = kind ∧ e.target.file = some file

namespace Config

variable {c : Config} {disk : Disk} {root : Path} {files : List String} {identifiers : Bool} {f : String}

/-! ## Entries by their files -/

theorem mem_entries_projectReport_iff {e : ReportEntry} :
    e ∈ (c.projectReport disk root files identifiers).entries ↔
      (∃ p ∈ files.map Path.toSlashes, c.ignores p = false ∧ e = c.pathEntry p) ∨
        (identifiers = true ∧ ∃ f ∈ files, ∃ d ∈ c.declared disk root f, e = c.declarationEntry f d) := by
  have hplaces : e ∈ (c.projectReport disk root files false).entries ↔
      ∃ p ∈ files.map Path.toSlashes, c.ignores p = false ∧ e = c.pathEntry p := by
    rw [entries_projectReport_places, List.mem_map]
    simp only [List.mem_filter, Bool.not_eq_true', and_assoc, @eq_comm _ e]
  cases identifiers with
  | false => simp only [hplaces, Bool.false_eq_true, false_and, or_false]
  | true =>
      rw [entries_projectReport_identifiers, List.mem_append, hplaces, List.mem_flatMap]
      simp only [List.mem_map, true_and, @eq_comm _ e]

theorem hasEntry_path_iff : (c.projectReport disk root files identifiers).HasEntry "path" f ↔
    f ∈ files.map Path.toSlashes ∧ c.ignores f = false := by
  constructor
  · rintro ⟨e, he, hkind, hfile⟩
    rcases mem_entries_projectReport_iff.1 he with ⟨p, hp, hkept, rfl⟩ | ⟨_, g, _, d, _, rfl⟩
    · cases hfile
      exact ⟨hp, hkept⟩
    · simp [declarationEntry] at hkind
  · rintro ⟨hp, hkept⟩
    exact ⟨c.pathEntry f, mem_entries_projectReport_iff.2 (Or.inl ⟨f, hp, hkept, rfl⟩), rfl, rfl⟩

theorem hasEntry_identifier_iff : (c.projectReport disk root files identifiers).HasEntry "identifier" f ↔
    identifiers = true ∧ f ∈ files ∧ c.declared disk root f ≠ [] := by
  constructor
  · rintro ⟨e, he, hkind, hfile⟩
    rcases mem_entries_projectReport_iff.1 he with ⟨p, _, _, rfl⟩ | ⟨hon, g, hg, d, hd, rfl⟩
    · simp [pathEntry] at hkind
    · cases hfile
      exact ⟨hon, hg, List.ne_nil_of_mem hd⟩
  · rintro ⟨hon, hf, hne⟩
    obtain ⟨d, hd⟩ := List.exists_mem_of_ne_nil _ hne
    exact ⟨c.declarationEntry f d, mem_entries_projectReport_iff.2 (Or.inr ⟨hon, f, hf, d, hd, rfl⟩), rfl, rfl⟩

theorem ignores_of_declared_ne_nil (h : c.declared disk root f ≠ []) : c.ignores f = false := by
  rw [declared] at h
  split at h
  · rename_i hsource
    simpa using (Bool.and_eq_true_iff.1 hsource).2
  · exact absurd rfl h

/-- A file with identifiers has an entry for its place exactly if its path has no backslash. -/
theorem hasEntry_path_of_identifier (h : (c.projectReport disk root files identifiers).HasEntry "identifier" f) :
    (c.projectReport disk root files identifiers).HasEntry "path" f ↔ '\\' ∉ f.toList := by
  obtain ⟨_, hf, hdeclared⟩ := hasEntry_identifier_iff.1 h
  rw [hasEntry_path_iff]
  constructor
  · rintro ⟨hp, _⟩
    obtain ⟨g, _, rfl⟩ := List.mem_map.1 hp
    exact Path.backslash_not_mem_toSlashes g
  · intro hplain
    exact ⟨List.mem_map.2 ⟨f, hf, Path.toSlashes_of_not_mem hplain⟩, ignores_of_declared_ne_nil hdeclared⟩

/-! ## Agreement -/

/-- Whether a report on a project has no identifiers of the files that are skipped, and an entry for the place of every
file that it has identifiers of. -/
structure AgreesOnIgnored (c : Config) (files : List String) (report : Report) : Prop where
  skipped : ∀ f ∈ files, c.ignores (Path.toSlashes f) = true → ¬report.HasEntry "identifier" f
  placed : ∀ f, report.HasEntry "identifier" f → report.HasEntry "path" f

theorem eq_projectReport_of_checkProject {workers : Option Int} {report : Report}
    (h : c.checkProject disk root files identifiers workers = .ok report) :
    report = c.projectReport disk root files identifiers := by
  obtain ⟨_, _, rfl⟩ := Except.map_eq_ok.1 h
  rfl

/-- Every report on a project agrees on what is ignored exactly if it has no identifiers of a file with a backslash in
its path. Of the files that it has identifiers of, those are the ones without an entry for their place. -/
theorem agreesOnIgnored_iff {workers : Option Int} {report : Report}
    (h : c.checkProject disk root files identifiers workers = .ok report) :
    (c.AgreesOnIgnored files report ↔ ∀ f, report.HasEntry "identifier" f → '\\' ∉ f.toList) ∧
      ∀ f, report.HasEntry "identifier" f → (report.HasEntry "path" f ↔ '\\' ∉ f.toList) := by
  obtain rfl := eq_projectReport_of_checkProject h
  refine ⟨⟨?_, ?_⟩, fun f hf => hasEntry_path_of_identifier hf⟩
  · intro hagrees f hf
    exact (hasEntry_path_of_identifier hf).1 (hagrees.placed f hf)
  · intro hplain
    refine ⟨?_, fun f hf => (hasEntry_path_of_identifier hf).2 (hplain f hf)⟩
    intro f _ hskipped hf
    have hkept := ignores_of_declared_ne_nil (hasEntry_identifier_iff.1 hf).2.2
    rw [Path.toSlashes_of_not_mem (hplain f hf), hkept] at hskipped
    cases hskipped

theorem default_ignores_eq_false {fields : List (List Char)} (h : Path.IsTidy f)
    (hfields : Text.splitOn '/' f.toList = fields) (hnot : ¬Glob.IgnoredByDefault fields) :
    default.ignores f = false := by
  rw [Bool.eq_false_iff]
  intro hignored
  rw [← hfields, ← Glob.ignores_defaultIgnore_iff h] at hnot
  exact hnot hignored

/-- The identifiers of a script are reported next to its place. -/
theorem agreesOnIgnored_sample : ∃ report : Report,
    default.checkProject sampleDisk ⟨"/", ["game"]⟩ ["scripts/helpers.gd", "notes.md"] true none = .ok report ∧
      default.AgreesOnIgnored ["scripts/helpers.gd", "notes.md"] report ∧
        report.HasEntry "identifier" "scripts/helpers.gd" ∧ report.HasEntry "path" "scripts/helpers.gd" := by
  have hworkers : ∀ n ∈ (none : Option Int), 0 < n := nofun
  have hreport := default.checkProject_eq sampleDisk ⟨"/", ["game"]⟩ ["scripts/helpers.gd", "notes.md"] hworkers true
  obtain ⟨hagrees, hplaced⟩ := agreesOnIgnored_iff hreport
  have hfields : Text.splitOn '/' "scripts/helpers.gd".toList = ["scripts".toList, "helpers.gd".toList] := by
    decide +kernel
  have hkept : default.ignores "scripts/helpers.gd" = false := by
    refine default_ignores_eq_false (by decide +kernel) hfields ?_
    simp [Glob.IgnoredByDefault, Glob.defaultEndings]
    decide
  have hdeclared : default.declared sampleDisk ⟨"/", ["game"]⟩ "scripts/helpers.gd" ≠ [] := by
    rw [declared, hkept]
    decide +kernel
  have hlisted : "scripts/helpers.gd" ∈ ["scripts/helpers.gd", "notes.md"] := List.mem_cons_self
  have hidentifier := hasEntry_identifier_iff.2 ⟨rfl, hlisted, hdeclared⟩
  refine ⟨_, hreport, hagrees.2 ?_, hidentifier, (hplaced _ hidentifier).2 (by decide)⟩
  intro f hf
  obtain ⟨_, hf, _⟩ := hasEntry_identifier_iff.1 hf
  have hplain : ∀ f ∈ ["scripts/helpers.gd", "notes.md"], '\\' ∉ f.toList := by decide
  exact hplain f hf

/-- A project with a script that has a backslash in its name. -/
def backslashDisk : Disk :=
  ⟨⟨"/", ["game"]⟩, [(["game", "addons\\tool.gd"], .file (some "var Speed\n") 0o644)]⟩

/-- The script is skipped as it lies in an ignored directory, once its backslash is a slash, and its identifiers are
reported all the same. -/
theorem not_agreesOnIgnored_backslash : ¬∀ (c : Config) (disk : Disk) (root : Path) (files : List String)
    (identifiers : Bool) (workers : Option Int) (report : Report),
    c.checkProject disk root files identifiers workers = .ok report → c.AgreesOnIgnored files report := by
  intro hagrees
  have hworkers : ∀ n ∈ (none : Option Int), 0 < n := nofun
  have hreport := default.checkProject_eq backslashDisk ⟨"/", ["game"]⟩ ["addons\\tool.gd"] hworkers true
  have hfields : Text.splitOn '/' "addons\\tool.gd".toList = ["addons\\tool.gd".toList] := by decide +kernel
  have hkept : default.ignores "addons\\tool.gd" = false := by
    refine default_ignores_eq_false (by decide +kernel) hfields ?_
    simp [Glob.IgnoredByDefault, Glob.defaultEndings]
    decide
  have hskipped : default.ignores (Path.toSlashes "addons\\tool.gd") = true := by
    have hslashes : Path.toSlashes "addons\\tool.gd" = "addons/tool.gd" := by decide
    rw [ignores, Glob.ignores_eq, Bool.or_eq_true, hslashes]
    exact Or.inl (Glob.anyMatches_defaultIgnore_iff.2 (by
      unfold Glob.MatchesDefault
      decide))
  have hdeclared : default.declared backslashDisk ⟨"/", ["game"]⟩ "addons\\tool.gd" ≠ [] := by
    rw [declared, hkept]
    decide +kernel
  exact (hagrees _ _ _ _ _ _ _ hreport).skipped "addons\\tool.gd" List.mem_cons_self hskipped
    (hasEntry_identifier_iff.2 ⟨rfl, List.mem_cons_self, hdeclared⟩)

end Config

end Conventions
