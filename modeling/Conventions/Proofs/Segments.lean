import Conventions.Proofs.Path

/-!
# Segments of relative paths

A path without backslashes and one with them are read in two ways, of which the second knows drives and shared folders.
On a path that begins with no slash in either direction and has no colon both of them come to the same: the path is cut
at all slashes in both directions, and empty parts and single points are dropped.
-/

namespace Conventions.Path

/-- Whether a character is a slash in either direction. -/
def isSlash (c : Char) : Bool := c = '/' || c = '\\'

/-- The parts of a path between slashes in either direction, without the empty ones and the ones that are `.`. -/
def plainParts (cs : List Char) : List (List Char) := (cs.splitOnP isSlash).filter fun f => f ≠ [] ∧ f ≠ ['.']

/-- Whether a path begins with no slash in either direction and has no colon. -/
structure IsRelative (s : String) : Prop where
  no_root : ∀ c, s.toList.head? = some c → isSlash c = false
  no_colon : ':' ∉ s.toList

variable {s : String} {sep other c : Char} {cs f : List Char} {fs : List (List Char)}

/-! ## A slash in the place of the other one -/

theorem isSlash_eq_false_iff : isSlash c = false ↔ c ≠ '/' ∧ c ≠ '\\' := by simp [isSlash]

theorem mem_of_mem_replaceChar (h : c ∈ Text.replaceChar other [sep] cs) : c = sep ∨ c ∈ cs := by
  obtain ⟨d, hd, hcd⟩ := List.mem_flatMap.1 h
  split at hcd
  · exact Or.inl (List.mem_singleton.1 hcd)
  · exact Or.inr (List.mem_singleton.1 hcd ▸ hd)

theorem head?_replaceChar (h : cs.head? ≠ some other) : (Text.replaceChar other [sep] cs).head? = cs.head? := by
  cases cs with
  | nil => rfl
  | cons c cs =>
      have hc : c ≠ other := fun he => h (he ▸ rfl)
      simp [Text.replaceChar, hc]

/-- Splitting at a character that has taken the place of another one splits at both. -/
theorem splitOn_replaceChar (sep other : Char) (cs : List Char) :
    Text.splitOn sep (Text.replaceChar other [sep] cs) = cs.splitOnP fun c => c = sep || c = other := by
  induction cs with
  | nil => rfl
  | cons c cs ih =>
      obtain ⟨f, fs, hcs⟩ := List.exists_cons_of_ne_nil (Text.splitOn_ne_nil sep (Text.replaceChar other [sep] cs))
      have hcons : Text.replaceChar other [sep] (c :: cs) =
          (if c = other then sep else c) :: Text.replaceChar other [sep] cs := by
        rw [Text.replaceChar, List.flatMap_cons, ← Text.replaceChar]
        split <;> rfl
      rw [hcons, List.splitOnP_cons_eq_if_modifyHead, ← ih]
      by_cases hsep : c = sep
      · simp [hsep, Text.splitOn_cons_self]
      · by_cases hother : c = other
        · simp [hother, Text.splitOn_cons_self]
        · rw [if_neg hother, Text.splitOn_cons_of_ne hsep hcs, hcs]
          simp [hsep, hother]

/-! ## Parts -/

theorem components_slash (cs : List Char) : components '/' (Text.replaceChar '\\' ['/'] cs) = plainParts cs := by
  rw [components, splitOn_replaceChar]
  rfl

theorem components_backslash (cs : List Char) : components '\\' (Text.replaceChar '/' ['\\'] cs) = plainParts cs := by
  have hor : (fun c : Char => decide (c = '\\') || decide (c = '/')) = isSlash := by
    funext c
    exact Bool.or_comm _ _
  rw [components, splitOn_replaceChar, hor]
  rfl

theorem plainParts_of_not_mem (h : '\\' ∉ cs) : plainParts cs = components '/' cs := by
  rw [← components_slash, Text.replaceChar_of_not_mem h]

/-- Whether a part can stand between slashes and is kept: not empty, not a single point, without slashes. -/
structure IsPart (f : List Char) : Prop where
  ne_nil : f ≠ []
  ne_point : f ≠ ['.']
  no_slash : ∀ c ∈ f, isSlash c = false

theorem isPart_of_mem_plainParts (h : f ∈ plainParts cs) : IsPart f := by
  have hkept : f ≠ [] ∧ f ≠ ['.'] := by simpa using (List.mem_filter.1 h).2
  refine ⟨hkept.1, hkept.2, fun c hc => isSlash_eq_false_iff.2 ⟨?_, ?_⟩⟩
  · rintro rfl
    rw [← components_slash] at h
    exact sep_not_mem_of_mem_components h hc
  · rintro rfl
    rw [← components_backslash] at h
    exact sep_not_mem_of_mem_components h hc

theorem IsPart.ne_slash (h : IsPart f) : f ≠ ['/'] ∧ f ≠ ['\\'] :=
  ⟨fun he => absurd (h.no_slash '/' (by simp [he])) (by decide),
    fun he => absurd (h.no_slash '\\' (by simp [he])) (by decide)⟩

theorem filter_ne_slash (h : ∀ f ∈ fs, IsPart f) : (fs.filter fun f => f ≠ ['/'] ∧ f ≠ ['\\']) = fs :=
  List.filter_eq_self.2 fun f hf => by simpa using (h f hf).ne_slash

/-! ## The two ways of reading a path -/

theorem IsRelative.head?_ne (h : IsRelative s) : s.toList.head? ≠ some '/' ∧ s.toList.head? ≠ some '\\' :=
  ⟨fun he => absurd (h.no_root '/' he) (by decide), fun he => absurd (h.no_root '\\' he) (by decide)⟩

/-- A path that does not begin with a backslash and has no colon has no drive and no root. -/
theorem splitDrive_eq (hroot : cs.head? ≠ some '\\') (hcolon : ':' ∉ cs) : splitDrive cs = ([], cs) := by
  cases cs with
  | nil => rfl
  | cons c cs =>
      have hc : c ≠ '\\' := fun he => hroot (he ▸ rfl)
      have hshare : splitShare [] (c :: cs) = none := by simp [splitShare, hc]
      cases cs with
      | nil => simp [splitDrive, hshare, hc]
      | cons d cs =>
          have hd : d ≠ ':' := fun he => hcolon (by simp [he])
          simp [splitDrive, hshare, hc, hd]

theorem slashParts_of_isRelative (h : IsRelative s) (hs : '\\' ∉ s.toList) :
    slashParts s.toList = plainParts s.toList := by
  rw [slashParts, splitRoot_eq h.head?_ne.1, plainParts_of_not_mem hs]
  rfl

theorem backslashParts_of_isRelative (h : IsRelative s) : backslashParts s.toList = plainParts s.toList := by
  have hroot : (Text.replaceChar '/' ['\\'] s.toList).head? ≠ some '\\' := by
    rw [head?_replaceChar h.head?_ne.1]
    exact h.head?_ne.2
  have hcolon : ':' ∉ Text.replaceChar '/' ['\\'] s.toList := by
    intro hmem
    rcases mem_of_mem_replaceChar hmem with he | hmem
    · exact absurd he (by decide)
    · exact h.no_colon hmem
  rw [backslashParts, splitDrive_eq hroot hcolon, ← components_backslash]
  rfl

theorem segments_of_isRelative (h : IsRelative s) : segments s = (plainParts s.toList).map String.ofList := by
  have hparts : (if s.toList.contains '\\' then backslashParts s.toList else slashParts s.toList) =
      plainParts s.toList := by
    split
    · exact backslashParts_of_isRelative h
    · rename_i hs
      exact slashParts_of_isRelative h (by simpa using hs)
  rw [segments, hparts, filter_ne_slash fun f => isPart_of_mem_plainParts]

/-! ## Other spellings of a path -/

theorem IsRelative.toSlashes (h : IsRelative s) : IsRelative (toSlashes s) where
  no_root c hc := by
    rw [Path.toSlashes, String.toList_ofList, head?_replaceChar h.head?_ne.2] at hc
    exact h.no_root c hc
  no_colon hmem := by
    rw [Path.toSlashes, String.toList_ofList] at hmem
    rcases mem_of_mem_replaceChar hmem with he | hmem
    · exact absurd he (by decide)
    · exact h.no_colon hmem

theorem plainParts_toSlashes (s : String) : plainParts (toSlashes s).toList = plainParts s.toList := by
  rw [plainParts_of_not_mem (backslash_not_mem_toSlashes s), toSlashes, String.toList_ofList, components_slash]

/-- Parts shown as one text are read again from it. -/
theorem segments_displayPath (h : ∀ f ∈ fs, IsPart f) :
    segments (displayPath (fs.map String.ofList)) = fs.map String.ofList := by
  by_cases hne : fs = []
  · subst hne
    rfl
  have htext : (displayPath (fs.map String.ofList)).toList = Text.join ['/'] fs := by
    rw [toList_displayPath, List.map_map]
    simp [Function.comp_def]
  have hback : '\\' ∉ (displayPath (fs.map String.ofList)).toList := by
    rw [htext]
    intro hmem
    rcases Text.mem_of_mem_join hmem with hsep | ⟨f, hf, hc⟩
    · exact absurd hsep (by decide)
    · exact absurd ((h f hf).no_slash _ hc) (by decide)
  have hfields : Text.splitOn '/' (displayPath (fs.map String.ofList)).toList = fs := by
    rw [htext]
    refine Text.splitOn_join hne fun f hf hc => ?_
    exact absurd ((h f hf).no_slash _ hc) (by decide)
  have htidy : IsTidy (displayPath (fs.map String.ofList)) := by
    rw [IsTidy, hfields]
    exact ⟨fun he => (h _ (List.mem_of_head? he)).ne_nil rfl, fun he => (h _ (List.mem_of_getLast? he)).ne_nil rfl,
      fun hmem => (h _ hmem).ne_point rfl⟩
  have hkept : fs.filter (· ≠ []) = fs := List.filter_eq_self.2 fun f hf => by simpa using (h f hf).ne_nil
  have hlists : (segments (displayPath (fs.map String.ofList))).map String.toList = fs := by
    rw [segments_of_isTidy hback htidy, hfields, hkept]
  calc segments (displayPath (fs.map String.ofList))
      = ((segments (displayPath (fs.map String.ofList))).map String.toList).map String.ofList := by
        simp [Function.comp_def]
    _ = fs.map String.ofList := by rw [hlists]

/-! ## Requests -/

/-- The request for a relative path has the parts of the path between slashes in either direction, in order. Slashes in
the place of its backslashes give the same request, and so does the text that shows its segments. -/
theorem ofPath_of_isRelative (kind : Option ArtifactKind) (h : IsRelative s) :
    Request.ofPath s kind = .path ((plainParts s.toList).map String.ofList) kind ∧
      Request.ofPath (toSlashes s) kind = Request.ofPath s kind ∧
      ∀ ss, Request.ofPath s kind = .path ss kind → Request.ofPath (displayPath ss) kind = .path ss kind := by
  have hsegments : segments s = (plainParts s.toList).map String.ofList := segments_of_isRelative h
  have hslashes : segments (toSlashes s) = segments s := by
    rw [segments_of_isRelative h.toSlashes, plainParts_toSlashes, hsegments]
  refine ⟨by rw [Request.ofPath, hsegments], by rw [Request.ofPath, Request.ofPath, hslashes], fun ss hss => ?_⟩
  obtain rfl : segments s = ss := (Request.path.inj hss).1
  rw [Request.ofPath, hsegments, segments_displayPath fun f => isPart_of_mem_plainParts]

theorem ofPath_bothSlashes :
    IsRelative "levels\\./one//a.tscn" ∧
      Request.ofPath "levels\\./one//a.tscn" none = .path ["levels", "one", "a.tscn"] none ∧
      Request.ofPath "levels/./one//a.tscn" none = .path ["levels", "one", "a.tscn"] none ∧
      Request.ofPath "levels/one/a.tscn" none = .path ["levels", "one", "a.tscn"] none := by
  have hfirst : "levels\\./one//a.tscn".toList.head? = some 'l' := by decide
  have hrelative : IsRelative "levels\\./one//a.tscn" := by
    refine ⟨fun c hc => ?_, by decide⟩
    rw [hfirst, Option.some.injEq] at hc
    rw [← hc]
    decide
  have hparts : (plainParts "levels\\./one//a.tscn".toList).map String.ofList = ["levels", "one", "a.tscn"] := by
    decide +kernel
  obtain ⟨hpath, hslashes, hshown⟩ := ofPath_of_isRelative none hrelative
  rw [hparts] at hpath
  refine ⟨hrelative, hpath, ?_, ?_⟩
  · exact hslashes.trans hpath
  · exact hshown _ hpath

end Conventions.Path
