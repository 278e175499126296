import Conventions.Proofs.LineEnds
import Conventions.Proofs.Project

/-!
# Numbers of lines

A declaration has the number of its line, which counts the line boundaries in front of it. Programs that show a text count
its line feeds only. Both give the same numbers exactly if no other boundary stands in front of a declaration.
-/

namespace Conventions

/-! ## Lines and their places -/

namespace Text

/-- A line of a text, with everything in front of it. -/
structure PlacedLine where
  front : List Char
  line : List Char

/-- Whether a line can begin behind a text: the text is empty or ends with a line boundary. -/
def endsLine (front : List Char) : Bool := front.getLast?.all isLineEnd

/-- The lines that begin in a text which stands behind `front`. -/
def placedLines (front : List Char) : List Char → List PlacedLine
  | [] => []
  | c :: cs =>
    if endsLine front then ⟨front, firstLine (c :: cs)⟩ :: placedLines (front ++ [c]) cs
    else placedLines (front ++ [c]) cs

variable {c : Char} {cs front : List Char} {p : PlacedLine}

theorem endsLine_concat (front : List Char) (c : Char) : endsLine (front ++ [c]) = isLineEnd c := by
  simp [endsLine]

theorem isLine_of_mem_placedLines (h : p ∈ placedLines front cs) : IsLine p.line := by
  induction cs generalizing front with
  | nil => cases h
  | cons c cs ih =>
      rw [placedLines] at h
      split at h
      · rcases List.mem_cons.1 h with rfl | h
        · exact fun d hd => isLineEnd_of_mem_firstLine hd
        · exact ih h
      · exact ih h

theorem firstLine_of_isLineEnd (h : isLineEnd c = true) : firstLine (c :: cs) = [] :=
  List.takeWhile_cons_of_neg (by simp [h])

theorem lines_cons_eq (h : isLineEnd c = false) : lines (c :: cs) = firstLine (c :: cs) :: (lines cs).tail := by
  obtain ⟨ls, hls⟩ := lines_eq_cons (List.cons_ne_nil c cs)
  have htail : (lines (c :: cs)).tail = (lines cs).tail := by
    rw [lines_cons h]
    cases lines cs <;> rfl
  rw [← htail, hls]
  rfl

/-- Lines that are counted from `front` on have as their numbers the boundaries in front of them. -/
theorem map_placedLines (hreturn : '\r' ∉ cs) (front : List Char) :
    ((placedLines front cs).map fun p => (p.line, 1 + p.front.countP isLineEnd)) =
      if endsLine front then (lines cs).zipIdx (1 + front.countP isLineEnd)
      else (lines cs).tail.zipIdx (2 + front.countP isLineEnd) := by
  induction cs generalizing front with
  | nil => simp [placedLines, lines]
  | cons c cs ih =>
      rw [List.mem_cons, not_or] at hreturn
      have hrest := ih hreturn.2 (front ++ [c])
      rw [endsLine_concat, List.countP_append, List.countP_singleton] at hrest
      rw [placedLines]
      cases hc : isLineEnd c with
      | true =>
          have hlines : lines (c :: cs) = [] :: lines cs :=
            lines_cons_of_isLineEnd hc fun he => absurd he.symm hreturn.1
          rw [hc, if_pos rfl, if_pos rfl, Nat.add_comm (List.countP _ _), ← Nat.add_assoc] at hrest
          rw [hlines]
          split
          · rw [List.map_cons, hrest, firstLine_of_isLineEnd hc, List.zipIdx_cons, Nat.add_right_comm]
          · exact hrest
      | false =>
          rw [hc, if_neg Bool.false_ne_true, if_neg Bool.false_ne_true, Nat.add_zero] at hrest
          rw [lines_cons_eq hc]
          split
          · rw [List.map_cons, hrest, List.zipIdx_cons, Nat.add_right_comm]
          · exact hrest

/-! ## Boundaries and line feeds -/

theorem countP_newline_le (cs : List Char) : cs.countP (· = '\n') ≤ cs.countP isLineEnd :=
  List.countP_mono_left fun c _ hc => by
    rw [of_decide_eq_true hc]
    exact isLineEnd_newline

/-- Line feeds count like all boundaries exactly if there are no other ones. -/
theorem countP_isLineEnd_eq_iff (cs : List Char) :
    cs.countP isLineEnd = cs.countP (· = '\n') ↔ ∀ c ∈ cs, isLineEnd c = true → c = '\n' := by
  induction cs with
  | nil => simp
  | cons c cs ih =>
      have hle := countP_newline_le cs
      rw [List.forall_mem_cons, ← ih, List.countP_cons, List.countP_cons]
      by_cases hc : c = '\n'
      · simp [hc, isLineEnd_newline]
      · cases hend : isLineEnd c with
        | true =>
            simp only [hc, decide_false, Bool.false_eq_true, if_false, if_true, forall_const, false_and, iff_false]
            omega
        | false => simp [hc]

/-! ## What stands in front of a declaration -/

/-- What stands in front of the first character of a line that is not blank. -/
def PlacedLine.before (p : PlacedLine) : List Char := p.front ++ p.line.takeWhile isBlank

/-- Blanks at the beginning of a line are no boundaries. -/
theorem countP_before (hp : IsLine p.line) {isEnd : Char → Bool} (hend : ∀ c, isEnd c = true → isLineEnd c = true) :
    p.before.countP isEnd = p.front.countP isEnd := by
  have hblanks : (p.line.takeWhile isBlank).countP isEnd = 0 := by
    refine List.countP_eq_zero.2 fun c hc h => ?_
    exact Bool.false_ne_true ((hp.of_isPrefix (List.takeWhile_prefix _) c hc).symm.trans (hend c h))
  rw [PlacedLine.before, List.countP_append, hblanks, Nat.add_zero]

end Text

/-! ## Declarations -/

theorem filterMap_eq_filterMap_iff {α β : Type} {f g : α → Option β} {as : List α}
    (h : ∀ a ∈ as, (f a).isSome = (g a).isSome) : as.filterMap f = as.filterMap g ↔ ∀ a ∈ as, f a = g a := by
  induction as with
  | nil => simp
  | cons a as ih =>
      rw [List.forall_mem_cons] at h
      rw [List.forall_mem_cons, ← ih h.2, List.filterMap_cons, List.filterMap_cons]
      cases hf : f a with
      | none =>
          have hg : g a = none := by simpa [hf] using h.1
          simp [hg]
      | some b =>
          obtain ⟨d, hd⟩ : ∃ d, g a = some d := Option.isSome_iff_exists.1 (h.1 ▸ hf ▸ rfl)
          simp [hd]

namespace Source

/-- What a line of a file declares. -/
def declared? (path : String) (line : List Char) : Option (List Char × IdentifierKind) :=
  let ext := (Path.parse path).lowerSuffix
  if ext = scriptExtension then Script.declared? line
  else if ext = sceneExtension then Scene.declared? line
  else none

/-- The declaration in a line, with a number that counts the characters in front of it that end lines. -/
def declarationIn? (path : String) (isEnd : Char → Bool) (p : Text.PlacedLine) : Option Declaration :=
  (declared? path p.line).map fun d => ⟨String.ofList d.1, d.2, 1 + p.before.countP isEnd⟩

/-- The declarations of a file, with numbers that count the characters in front of them that end lines. -/
def numberedBy (isEnd : Char → Bool) (path text : String) : List Declaration :=
  (Text.placedLines [] text.toList).filterMap (declarationIn? path isEnd)

variable {path text : String}

theorem declarations_eq_ofLinesFrom (path text : String) :
    declarations path text = Declaration.ofLinesFrom (declared? path) 1 (Text.lines text.toList) := by
  simp only [declarations]
  split
  · rename_i hscript
    have hfind : declared? path = Script.declared? := funext fun line => by simp only [declared?, if_pos hscript]
    rw [hfind, Script.declarations]
  · rename_i hscript
    split
    · rename_i hscene
      have hfind : declared? path = Scene.declared? :=
        funext fun line => by simp only [declared?, if_neg hscript, if_pos hscene]
      rw [hfind, Scene.declarations]
    · rename_i hscene
      have hfind : declared? path = fun _ => none :=
        funext fun line => by simp only [declared?, if_neg hscript, if_neg hscene]
      rw [hfind, Declaration.ofLinesFrom_eq_filterMap]
      simp

theorem declarationIn?_eq {p : Text.PlacedLine} (hp : Text.IsLine p.line) {isEnd : Char → Bool}
    (hend : ∀ c, isEnd c = true → Text.isLineEnd c = true) : declarationIn? path isEnd p =
      (declared? path p.line).map fun d => ⟨String.ofList d.1, d.2, 1 + p.front.countP isEnd⟩ := by
  rw [declarationIn?, Text.countP_before hp hend]

theorem declarations_eq_numberedBy (h : '\r' ∉ text.toList) :
    declarations path text = numberedBy Text.isLineEnd path text := by
  have hplaced := Text.map_placedLines h []
  rw [if_pos (by rfl), List.countP_nil, Nat.add_zero] at hplaced
  rw [declarations_eq_ofLinesFrom, Declaration.ofLinesFrom_eq_filterMap, ← hplaced, List.filterMap_map, numberedBy]
  refine List.filterMap_congr fun p hp => ?_
  rw [Function.comp_apply, declarationIn?_eq (Text.isLine_of_mem_placedLines hp) fun _ hc => hc]

theorem isSome_declarationIn? (isEnd : Char → Bool) (p : Text.PlacedLine) :
    (declarationIn? path isEnd p).isSome = (declared? path p.line).isSome := Option.isSome_map

/-- Line feeds give a declaration the number that all boundaries give exactly if there are no others in front of it. -/
theorem declarationIn?_newline_iff {p : Text.PlacedLine} (hp : Text.IsLine p.line) :
    declarationIn? path Text.isLineEnd p = declarationIn? path (· = '\n') p ↔
      ((declared? path p.line).isSome → ∀ c ∈ p.front, Text.isLineEnd c = true → c = '\n') := by
  have hnewline : ∀ c, decide (c = '\n') = true → Text.isLineEnd c = true := fun c hc => by
    rw [of_decide_eq_true hc]
    exact Text.isLineEnd_newline
  rw [declarationIn?_eq hp fun _ hc => hc, declarationIn?_eq hp hnewline]
  cases declared? path p.line with
  | none => simp
  | some d =>
      rw [← Text.countP_isLineEnd_eq_iff]
      simp

/-- In a text without carriage returns a declaration has the number that the line boundaries in front of it give. The
line feeds in front of the declarations give the same numbers exactly if no other boundaries are there. -/
theorem line_of_declarations (h : '\r' ∉ text.toList) :
    declarations path text = numberedBy Text.isLineEnd path text ∧
      (declarations path text = numberedBy (· = '\n') path text ↔
        ∀ p ∈ Text.placedLines [] text.toList, (declared? path p.line).isSome →
          ∀ c ∈ p.front, Text.isLineEnd c = true → c = '\n') := by
  have hsome : ∀ p ∈ Text.placedLines [] text.toList,
      (declarationIn? path Text.isLineEnd p).isSome = (declarationIn? path (· = '\n') p).isSome := fun p _ => by
    rw [isSome_declarationIn?, isSome_declarationIn?]
  refine ⟨declarations_eq_numberedBy h, ?_⟩
  rw [declarations_eq_numberedBy h, numberedBy, numberedBy, filterMap_eq_filterMap_iff hsome]
  exact forall₂_congr fun p hp => declarationIn?_newline_iff (Text.isLine_of_mem_placedLines hp)

/-- Two variables below a comment, the second one behind another comment with a form feed in it. -/
theorem line_of_declarations_formFeed :
    let text := "# speed\nvar speed\n# page\x0cbreak\nvar health\n"
    '\r' ∉ text.toList ∧ declarations "player.gd" text = [⟨"speed", .variable, 2⟩, ⟨"health", .variable, 5⟩] := by
  refine ⟨by decide, (line_of_declarations (by decide)).1.trans ?_⟩
  decide +kernel

/-- A form feed in a comment gives the variable below the comment another number than the line feeds do. -/
theorem declarations_ne_numberedBy_newline :
    let text := "# page\x0cbreak\nvar speed\n"
    '\r' ∉ text.toList ∧ declarations "player.gd" text = [⟨"speed", .variable, 3⟩] ∧
      numberedBy (· = '\n') "player.gd" text = [⟨"speed", .variable, 2⟩] := by
  decide +kernel

end Source

end Conventions
