import Conventions.Check
import Conventions.Proofs.Glob
import Conventions.Proofs.Path
import Conventions.Proofs.Report

/-!
# Ignored files and spellings of their paths

The globs of ignored files are matched against the text of a path and against the name of the file. The name is
the same in all spellings of a path, the text is not. So globs that decide on the name ignore a file in all
spellings or in none, and the default globs do so for tidy paths.
-/

namespace Conventions

namespace Glob

variable {path : String} {globs : List String}

/-- Whether one of some globs stands for a text. -/
def anyMatches (globs : List String) (text : String) : Bool := globs.any fun g => matchesText g text

theorem ignores_eq : ignores globs path = (anyMatches globs path || anyMatches globs (Path.parse path).name) := by
  rw [Bool.eq_iff_iff]
  simp [ignores, anyMatches, and_or_left, exists_or]

/-! ## Globs that decide on the name -/

/-- Whether a glob is a star and an ending of a file name. -/
def IsEnding (glob : String) : Prop :=
  ∃ w, glob = String.ofList ('*' :: w) ∧ IsLiteral w ∧ '/' ∉ w ∧ w ≠ ['.']

/-- What ends a path ends the name of the file. -/
theorem matchesText_name_of_isEnding {glob : String} (hg : IsEnding glob) (h : matchesText glob path = true) :
    matchesText glob (Path.parse path).name = true := by
  obtain ⟨w, rfl, hw, hslash, hdot⟩ := hg
  rw [matchesText_star_literal hw] at h ⊢
  obtain ⟨f, hf⟩ := Text.exists_getLast?_splitOn '/' path.toList
  rw [← Text.join_splitOn '/' path.toList, Text.isSuffix_join_iff hslash hf] at h
  by_cases hempty : w = []
  · rw [hempty]
    exact List.nil_suffix
  · have hne : f ≠ [] := fun he => hempty (List.suffix_nil.1 (he ▸ h))
    have hpoint : f ≠ ['.'] := by
      rintro rfl
      rcases List.suffix_cons_iff.1 h with he | he
      · exact hdot he
      · exact hempty (List.suffix_nil.1 he)
    obtain ⟨init, hfields⟩ := List.getLast?_eq_some_iff.1 hf
    rw [Path.name_parse_of_splitOn hfields hne hpoint, String.toList_ofList]
    exact h

theorem ignores_eq_of_isEnding (hglobs : ∀ g ∈ globs, IsEnding g) :
    ignores globs path = anyMatches globs (Path.parse path).name := by
  rw [ignores_eq, Bool.or_eq_right_iff_imp]
  intro h
  obtain ⟨g, hg, hmatch⟩ := List.any_eq_true.1 h
  exact List.any_eq_true.2 ⟨g, hg, matchesText_name_of_isEnding (hglobs g hg) hmatch⟩

/-! ## The default globs -/

/-- The endings of file names that the default globs stand for. -/
def defaultEndings : List String := [".md", ".import", ".godot", ".cfg"]

theorem defaultIgnore_eq :
    defaultIgnore = [".*", "*/.*"] ++ defaultEndings.map ("*" ++ ·) ++ ["LICENSE*", "addons/*"] := by
  decide

theorem isLiteral_of_mem_defaultEndings : ∀ e ∈ defaultEndings, IsLiteral e.toList := by decide

/-- What the default globs stand for as texts. -/
def MatchesDefault (cs : List Char) : Prop :=
  ['.'] <+: cs ∨ ['/', '.'] <:+: cs ∨ (∃ e ∈ defaultEndings, e.toList <:+ cs) ∨
    "LICENSE".toList <+: cs ∨ "addons".toList ++ ['/'] <+: cs

theorem anyMatches_defaultIgnore_iff {text : String} :
    anyMatches defaultIgnore text = true ↔ MatchesDefault text.toList := by
  have hdot : matchesText ".*" text = true ↔ ['.'] <+: text.toList :=
    matchesText_literal_star (w := ['.']) (by decide)
  have hbelow : matchesText "*/.*" text = true ↔ ['/', '.'] <:+: text.toList :=
    matchesText_star_literal_star (w := ['/', '.']) (by decide)
  have hlicence : matchesText "LICENSE*" text = true ↔ "LICENSE".toList <+: text.toList :=
    matchesText_literal_star (w := "LICENSE".toList) (by decide)
  have haddons : matchesText "addons/*" text = true ↔ "addons".toList ++ ['/'] <+: text.toList :=
    matchesText_literal_star (w := "addons".toList ++ ['/']) (by decide)
  have hending : (∃ e ∈ defaultEndings, matchesText ("*" ++ e) text = true) ↔
      ∃ e ∈ defaultEndings, e.toList <:+ text.toList := by
    refine exists_congr fun e => and_congr_right fun he => ?_
    have hstar : "*" ++ e = String.ofList ('*' :: e.toList) := by simp
    rw [hstar, matchesText_star_literal (isLiteral_of_mem_defaultEndings e he)]
  rw [anyMatches, defaultIgnore_eq, List.any_append, List.any_append, List.any_map, Bool.or_eq_true,
    Bool.or_eq_true, List.any_eq_true (l := defaultEndings), Function.comp_def, hending]
  simp only [List.any_cons, List.any_nil, Bool.or_false, Bool.or_eq_true, hdot, hbelow, hlicence, haddons,
    or_assoc, MatchesDefault]

theorem matchesDefault_join_iff {f l : List Char} {fs : List (List Char)} (h : ∀ x ∈ f :: fs, '/' ∉ x)
    (hl : (f :: fs).getLast? = some l) :
    MatchesDefault (Text.join ['/'] (f :: fs)) ↔
      ['.'] <+: f ∨ (∃ x ∈ fs, ['.'] <+: x) ∨ (∃ e ∈ defaultEndings, e.toList <:+ l) ∨
        "LICENSE".toList <+: f ∨ (f = "addons".toList ∧ fs ≠ []) := by
  have hslash : ∀ e ∈ defaultEndings, '/' ∉ e.toList := by decide
  have hending : (∃ e ∈ defaultEndings, e.toList <:+ Text.join ['/'] (f :: fs)) ↔
      ∃ e ∈ defaultEndings, e.toList <:+ l :=
    exists_congr fun e => and_congr_right fun he => Text.isSuffix_join_iff (hslash e he) hl
  rw [MatchesDefault, hending, Text.isPrefix_join_iff (by decide), Text.isInfix_join_iff (by decide) h,
    Text.isPrefix_join_iff (by decide), Text.isPrefix_concat_join_iff (by decide) (h f List.mem_cons_self),
    List.tail_cons]

theorem matchesDefault_iff_of_not_mem {l : List Char} (h : '/' ∉ l) : MatchesDefault l ↔
    ['.'] <+: l ∨ (∃ e ∈ defaultEndings, e.toList <:+ l) ∨ "LICENSE".toList <+: l := by
  have hone := matchesDefault_join_iff (f := l) (l := l) (List.forall_mem_singleton.2 h) rfl
  simpa only [Text.join, List.not_mem_nil, false_and, exists_false, false_or, ne_eq, not_true_eq_false,
    and_false, or_false] using hone

/-- What the default globs stand for, given the components of a path: a component with a point in front, a name with
one of some endings, a first component or a name that begins like a licence, and what lies in the addons. -/
def IgnoredByDefault (fields : List (List Char)) : Prop :=
  (∃ f ∈ fields, ['.'] <+: f) ∨
    (∃ f ∈ fields.getLast?, ∃ e ∈ defaultEndings, e.toList <:+ f) ∨
    (∃ f, (f ∈ fields.head? ∨ f ∈ fields.getLast?) ∧ "LICENSE".toList <+: f) ∨
    (fields.head? = some "addons".toList ∧ fields.tail ≠ [])

theorem ignores_defaultIgnore_iff (h : Path.IsTidy path) :
    ignores defaultIgnore path = true ↔ IgnoredByDefault (Text.splitOn '/' path.toList) := by
  have hslash : ∀ f ∈ Text.splitOn '/' path.toList, '/' ∉ f := Text.not_mem_of_mem_splitOn
  have htext := Text.join_splitOn '/' path.toList
  obtain ⟨l, hl⟩ := Text.exists_getLast?_splitOn '/' path.toList
  have hname := Path.name_parse_of_isTidy h hl
  obtain ⟨f, fs, hfields⟩ := List.exists_cons_of_ne_nil (Text.splitOn_ne_nil '/' path.toList)
  rw [hfields] at hslash htext hl ⊢
  have hmem : l ∈ f :: fs := List.mem_of_getLast? hl
  rw [ignores_eq, Bool.or_eq_true, anyMatches_defaultIgnore_iff, anyMatches_defaultIgnore_iff, hname,
    String.toList_ofList, ← htext, matchesDefault_join_iff hslash hl,
    matchesDefault_iff_of_not_mem (hslash l hmem)]
  simp only [IgnoredByDefault, hl, List.head?_cons, List.tail_cons, Option.mem_def, Option.some.injEq,
    exists_eq_left', List.exists_mem_cons_iff, or_and_right, exists_or]
  -- a name with a point in front is one of the components with a point in front
  have hpoint : ['.'] <+: l → ['.'] <+: f ∨ ∃ x ∈ fs, ['.'] <+: x := by
    intro hp
    rcases List.mem_cons.1 hmem with rfl | hx
    · exact Or.inl hp
    · exact Or.inr ⟨l, hx, hp⟩
  -- what is left is the order of the alternatives
  grind only

/-- Empty components in the middle of a path do not matter. -/
theorem ignoredByDefault_filter_iff {fields : List (List Char)} (hhead : fields.head? ≠ some [])
    (hlast : fields.getLast? ≠ some []) :
    IgnoredByDefault (fields.filter (· ≠ [])) ↔ IgnoredByDefault fields := by
  have hpoint : (∃ f ∈ fields.filter (· ≠ []), ['.'] <+: f) ↔ ∃ f ∈ fields, ['.'] <+: f := by
    constructor
    · rintro ⟨f, hf, hp⟩
      exact ⟨f, List.mem_of_mem_filter hf, hp⟩
    · rintro ⟨f, hf, hp⟩
      refine ⟨f, List.mem_filter.2 ⟨hf, ?_⟩, hp⟩
      have hne : f ≠ [] := by
        rintro rfl
        exact absurd hp (by decide)
      simpa using hne
  cases fields with
  | nil => rfl
  | cons f fs =>
      have hf : f ≠ [] := by simpa using hhead
      -- the last component is not empty, so something is left behind the first one if there was something
      rcases List.eq_nil_or_concat fs with rfl | ⟨init, l, rfl⟩
      · rw [List.filter_cons_of_pos (by simpa using hf), List.filter_nil]
      · rw [List.concat_eq_append, ← List.cons_append, List.getLast?_concat] at hlast
        have hl : l ≠ [] := by simpa using hlast
        have hfilter : (f :: init.concat l).filter (· ≠ []) = f :: (init.filter (· ≠ []) ++ [l]) := by
          simp [hf, hl]
        rw [IgnoredByDefault, IgnoredByDefault, hpoint, hfilter, List.concat_eq_append]
        simp only [← List.cons_append, List.getLast?_concat]
        simp

end Glob

namespace Config

/-! ## Checks of paths -/

/-- The report of a check of one path. -/
def pathReport (c : Config) (kind : Option ArtifactKind) (path : String) : Report :=
  let checked := c.pathItems kind true [path]
  c.report checked.1 checked.2

variable {c : Config} {kind : Option ArtifactKind} {p q : String}

theorem verdicts_report (items : List CheckItem) (skipped : Nat) :
    (c.report items skipped).entries.map ReportEntry.verdict =
      items.map fun item => c.ruleSet.validate item.2 := by
  rw [entries_report, List.map_map]
  rfl

theorem pathItems_eq (c : Config) (kind : Option ArtifactKind) (paths : List String) : c.pathItems kind true paths =
    (((paths.map Path.toSlashes).filter fun p => !c.ignores p).map (pathItem kind),
      ((paths.map Path.toSlashes).filter c.ignores).length) := by
  simp only [pathItems, Bool.true_and, List.partition_eq_filter_filter]
  rfl

theorem pathItems_singleton : c.pathItems kind true [p] =
    if c.ignores (Path.toSlashes p) then ([], 1) else ([pathItem kind (Path.toSlashes p)], 0) := by
  cases h : c.ignores (Path.toSlashes p) <;> simp [pathItems_eq, h]

theorem skipped_pathReport :
    (c.pathReport kind p).skipped = if c.ignores (Path.toSlashes p) then 1 else 0 := by
  rw [pathReport, pathItems_singleton]
  split <;> rfl

theorem skipped_pathReport_eq_iff : (c.pathReport kind p).skipped = (c.pathReport kind q).skipped ↔
    c.ignores (Path.toSlashes p) = c.ignores (Path.toSlashes q) := by
  rw [skipped_pathReport, skipped_pathReport]
  cases c.ignores (Path.toSlashes p) <;> cases c.ignores (Path.toSlashes q) <;> simp

theorem verdicts_pathReport : (c.pathReport kind p).entries.map ReportEntry.verdict =
    if c.ignores (Path.toSlashes p) then []
    else [c.ruleSet.validate (.ofPath (Path.toSlashes p) kind)] := by
  rw [pathReport, verdicts_report, pathItems_singleton]
  split <;> rfl

/-- Two paths that have the same segments, once every backslash is a slash, are treated alike if the globs decide on
the name of the file, or if they are the default ones and both paths are tidy: both are skipped or none is. With other
globs this is so exactly if a glob stands for the name, or globs stand for both texts or for none of them. Paths that
are treated alike have the same verdicts. -/
theorem pathReport_spelling (c : Config) (kind : Option ArtifactKind)
    (h : Path.segments (Path.toSlashes p) = Path.segments (Path.toSlashes q)) :
    ((c.pathReport kind p).skipped = (c.pathReport kind q).skipped ↔
        Glob.anyMatches c.ignore (Path.parse (Path.toSlashes p)).name = true ∨
          Glob.anyMatches c.ignore (Path.toSlashes p) = Glob.anyMatches c.ignore (Path.toSlashes q)) ∧
      ((c.pathReport kind p).skipped = (c.pathReport kind q).skipped →
        (c.pathReport kind p).entries.map ReportEntry.verdict =
          (c.pathReport kind q).entries.map ReportEntry.verdict) ∧
      ((∀ g ∈ c.ignore, Glob.IsEnding g) →
        (c.pathReport kind p).skipped = (c.pathReport kind q).skipped) ∧
      (c.ignore = defaultIgnore → Path.IsTidy (Path.toSlashes p) → Path.IsTidy (Path.toSlashes q) →
        (c.pathReport kind p).skipped = (c.pathReport kind q).skipped) := by
  have hname : (Path.parse (Path.toSlashes p)).name = (Path.parse (Path.toSlashes q)).name :=
    Path.name_parse_congr (Path.backslash_not_mem_toSlashes p) (Path.backslash_not_mem_toSlashes q) h
  rw [skipped_pathReport_eq_iff, verdicts_pathReport, verdicts_pathReport]
  refine ⟨?alike, ?verdicts, ?endings, ?default⟩
  case alike =>
    rw [ignores, ignores, Glob.ignores_eq, Glob.ignores_eq, ← hname]
    cases Glob.anyMatches c.ignore (Path.parse (Path.toSlashes p)).name <;> simp
  case verdicts =>
    intro hskipped
    rw [hskipped, Request.ofPath, Request.ofPath, h]
  case endings =>
    intro hglobs
    rw [ignores, ignores, Glob.ignores_eq_of_isEnding hglobs, Glob.ignores_eq_of_isEnding hglobs, hname]
  case default =>
    intro hdefault hp hq
    have hsame := Path.segments_of_isTidy (Path.backslash_not_mem_toSlashes p) hp
    rw [h, Path.segments_of_isTidy (Path.backslash_not_mem_toSlashes q) hq] at hsame
    rw [ignores, ignores, hdefault, Bool.eq_iff_iff, Glob.ignores_defaultIgnore_iff hp,
      Glob.ignores_defaultIgnore_iff hq, ← Glob.ignoredByDefault_filter_iff hp.1 hp.2.1,
      ← Glob.ignoredByDefault_filter_iff hq.1 hq.2.1, hsame]

/-- Two spellings with the same components are both checked, and a note is skipped wherever its path starts. -/
theorem pathReport_spelling_default :
    (default.pathReport none "levels//one.tscn").entries.map ReportEntry.verdict =
        (default.pathReport none "levels/one.tscn").entries.map ReportEntry.verdict ∧
      (pathReport { default with ignore := ["*.md"] } none "./notes.md").skipped =
        (pathReport { default with ignore := ["*.md"] } none "notes.md").skipped := by
  have hlevel : Path.segments (Path.toSlashes "levels//one.tscn") =
      Path.segments (Path.toSlashes "levels/one.tscn") := by decide +kernel
  have hnotes : Path.segments (Path.toSlashes "./notes.md") = Path.segments (Path.toSlashes "notes.md") := by
    decide +kernel
  obtain ⟨_, hverdicts, _, hdefault⟩ := pathReport_spelling default none hlevel
  obtain ⟨_, _, hendings, _⟩ := pathReport_spelling { default with ignore := ["*.md"] } none hnotes
  refine ⟨hverdicts (hdefault rfl (by decide +kernel) (by decide +kernel)), hendings ?_⟩
  intro g hg
  obtain rfl := List.mem_singleton.1 hg
  exact ⟨".md".toList, by decide, by decide, by decide, by decide⟩

/-- With the default globs a file is checked under its plain path, and skipped under the same path with a point in
front of it. -/
theorem pathReport_dotted : ¬∀ (c : Config) (kind : Option ArtifactKind) (p q : String),
    Path.segments p = Path.segments q → (c.pathReport kind p).skipped = (c.pathReport kind q).skipped := by
  intro hspelling
  have hsame : Path.segments "./levels/one.tscn" = Path.segments "levels/one.tscn" := by decide +kernel
  have hskipped := hspelling default none "./levels/one.tscn" "levels/one.tscn" hsame
  rw [skipped_pathReport_eq_iff, Path.toSlashes_of_not_mem (by decide), Path.toSlashes_of_not_mem (by decide)]
    at hskipped
  have hdotted : default.ignores "./levels/one.tscn" = true := by
    rw [ignores, Glob.ignores_eq, Bool.or_eq_true]
    exact Or.inl (Glob.anyMatches_defaultIgnore_iff.2 (Or.inl (by decide)))
  have hplain : ¬default.ignores "levels/one.tscn" = true := by
    have htidy : Path.IsTidy "levels/one.tscn" := by decide +kernel
    have hfields : Text.splitOn '/' "levels/one.tscn".toList = ["levels".toList, "one.tscn".toList] := by
      decide +kernel
    show ¬Glob.ignores defaultIgnore "levels/one.tscn" = true
    rw [Glob.ignores_defaultIgnore_iff htidy, hfields]
    simp [Glob.IgnoredByDefault, Glob.defaultEndings]
    decide
  exact hplain (hskipped ▸ hdotted)

end Config

end Conventions
