import Mathlib.Data.List.DropRight
import Conventions.Proofs.Commit
import Conventions.Proofs.Path
import Conventions.Proofs.Place
import Conventions.Proofs.Walk

/-!
# What checks point at

A mismatch comes with a span of the text that was checked. The span lies in the text, and what it selects is what the
check objects to. Only the report about a path without segments has no span.
-/

namespace Conventions

/-- The text that the checks of a request look at. -/
def Request.checkedText : Request → List Char
  | .branch name => name.toList
  | .commit message => Commit.headerLine message.toList
  | .identifier name _ => name.toList
  | .path segments _ => (displayPath segments).toList

/-- A part of a text: what stands before it, its characters, and what stands behind it. -/
structure Part where
  before : List Char
  chars : List Char
  rest : List Char

namespace Part

/-- The whole text. -/
def text (p : Part) : List Char := p.before ++ (p.chars ++ p.rest)

/-- The offsets of the part in the text. -/
def span (p : Part) : Span := .between p.before.length (p.before.length + p.chars.length)

/-- Whether the part is the whole text. -/
def IsWhole (p : Part) : Prop := p.before = [] ∧ p.rest = []

/-- Whether the part is one character, or the empty one at the end of the text. -/
def IsChar (p : Part) : Prop := p.chars.length = 1 ∨ (p.chars = [] ∧ p.rest = [])

theorem span_bounds (p : Part) :
    0 ≤ p.span.start ∧ p.span.start ≤ p.span.stop ∧ p.span.stop ≤ p.text.length := by
  simp only [span, Span.between, text, List.length_append]
  omega

/-- The character at an offset, or the end of the text. -/
theorem exists_char {text : List Char} {i : Nat} (h : i ≤ text.length) :
    ∃ p : Part, p.text = text ∧ p.span = .between i (min (i + 1) text.length) ∧ p.IsChar ∧
      (i < text.length → p.chars.length = 1) := by
  refine ⟨⟨text.take i, (text.drop i).take 1, (text.drop i).drop 1⟩, ?_, ?_, ?_, ?_⟩
  · simp only [Part.text, List.take_append_drop]
  · have hlength : i + min 1 (text.length - i) = min (i + 1) text.length := by omega
    simp only [span, List.length_take, List.length_drop, Nat.min_eq_left h, hlength]
  · cases hrest : text.drop i with
    | nil => exact Or.inr ⟨rfl, rfl⟩
    | cons c cs => exact Or.inl rfl
  · intro hlt
    rw [List.length_take, List.length_drop]
    omega

end Part

/-- Whether a mismatch points at a part of a text that is as it should be. -/
def Mismatch.PointsAt (x : Mismatch) (text : List Char) (offending : Part → Prop) : Prop :=
  ∃ p : Part, p.text = text ∧ x.span = some p.span ∧ offending p

/-! ## Branch names -/

namespace Branch

variable {name : String} {x : Mismatch} {ps : Params}

/-- Whether a part is what stands in front of the first hyphen of a name; a hyphen in front of everything does not
count, and without one it is the whole name. -/
def IsHead (p : Part) : Prop :=
  (p.before = [] ∧ p.chars ≠ [] ∧ '-' ∉ p.chars ∧ p.rest.head? = some '-') ∨
    (p.IsWhole ∧ ('-' ∈ p.chars → p.chars.head? = some '-'))

theorem pointsAt_of_issueNumberMismatch (h : issueNumberMismatch name = some x) :
    x.PointsAt name.toList IsHead := by
  simp only [issueNumberMismatch] at h
  split at h
  · cases h
    by_cases hm : '-' ∈ name.toList
    · have hsplit := Text.before_append_after hm
      have hhyphen := Text.not_mem_before '-' name.toList
      cases hhead : Text.before '-' name.toList with
      | nil =>
          rw [hhead] at hsplit
          exact ⟨⟨[], name.toList, []⟩, by simp [Part.text], by simp [Part.span],
            Or.inr ⟨⟨rfl, rfl⟩, fun _ => by rw [← hsplit]; rfl⟩⟩
      | cons c cs =>
          rw [hhead] at hsplit hhyphen
          exact ⟨⟨[], c :: cs, '-' :: Text.after '-' name.toList⟩, hsplit, by simp [Part.span],
            Or.inl ⟨rfl, List.cons_ne_nil c cs, hhyphen, rfl⟩⟩
    · rw [Text.before_of_not_mem hm]
      exact ⟨⟨[], name.toList, []⟩, by simp [Part.text], by simp [Part.span],
        Or.inr ⟨⟨rfl, rfl⟩, fun h => absurd h hm⟩⟩
  · cases h

theorem lt_length_of_faultFrom {previous : Option Char} {cs : List Char} {i : Nat} {f : TitleFault}
    (h : faultFrom previous cs = some (i, f)) : i < cs.length := by
  induction cs generalizing previous i with
  | nil => cases h
  | cons c cs ih =>
      rw [faultFrom] at h
      split at h
      · cases h
        exact Nat.zero_lt_succ _
      · obtain ⟨⟨j, g⟩, hj, heq⟩ := Option.map_eq_some_iff.1 h
        cases heq
        exact Nat.succ_lt_succ (ih hj)

theorem le_length_of_titleFault? {title : List Char} {i : Nat} {f : TitleFault}
    (h : titleFault? title = some (i, f)) : i ≤ title.length := by
  rw [titleFault?] at h
  split at h
  · cases h
    exact Nat.zero_le _
  · exact (lt_length_of_faultFrom h).le

theorem pointsAt_of_titleMismatch (h : titleMismatch name = some x) : x.PointsAt name.toList Part.IsChar := by
  have hchar {i : Nat} (hi : i ≤ name.toList.length) (value expected detail : String) :
      Mismatch.PointsAt ⟨value, expected, some (charSpan i name.toList.length), detail⟩ name.toList Part.IsChar := by
    obtain ⟨p, htext, hspan, hp, _⟩ := Part.exists_char hi
    exact ⟨p, htext, congrArg some hspan.symm, hp⟩
  simp only [titleMismatch] at h
  split at h
  · cases h
    exact hchar (List.takeWhile_prefix _).length_le _ _ _
  · rename_i hhyphen
    obtain ⟨⟨i, f⟩, hfault, rfl⟩ := Option.map_eq_some_iff.1 h
    refine hchar ?_ _ _ _
    have hi := le_length_of_titleFault? hfault
    rw [List.length_drop] at hi
    -- the title begins in the name, as the hyphen in front of it stands there
    have hoffset : (if (leadingDigits name.toList).length = 0 then 0 else (leadingDigits name.toList).length + 1) ≤
        name.toList.length := by
      split
      · exact Nat.zero_le _
      · rename_i hne
        rw [not_and_not_right, List.head?_drop] at hhyphen
        exact (List.getElem?_eq_some_iff.1 (hhyphen hne)).1
    omega

theorem pointsAt_of_checkIssueNumber (h : checkIssueNumber name ps = .ok (some x)) :
    x.PointsAt name.toList IsHead := by
  obtain ⟨exempt, _, h⟩ := Except.map_eq_ok.1 h
  split at h
  · cases h
  · exact pointsAt_of_issueNumberMismatch h

theorem pointsAt_of_checkTitle (h : checkTitle name ps = .ok (some x)) : x.PointsAt name.toList Part.IsChar := by
  obtain ⟨exempt, _, h⟩ := Except.map_eq_ok.1 h
  split at h
  · cases h
  · exact pointsAt_of_titleMismatch h

end Branch

/-! ## Commit messages -/

namespace Commit

variable {message : String} {x : Mismatch} {ps : Params}

/-- Whether a part is a header without a colon, or the first colon of a header. -/
def IsHeaderOrColon (p : Part) : Prop :=
  (p.IsWhole ∧ ':' ∉ p.chars) ∨ (p.chars = [':'] ∧ ':' ∉ p.before)

theorem pointsAt_of_checkSeparator (h : checkSeparator message ps = some x) :
    x.PointsAt (headerLine message.toList) IsHeaderOrColon := by
  obtain ⟨header, hheader, h⟩ := Option.bind_eq_some_iff.1 h
  obtain rfl := header?_eq_some hheader
  by_cases hcolon : ':' ∈ headerLine message.toList
  · obtain ⟨left, right, hleft, hline⟩ := Header.exists_append_of_mem hcolon
    rw [hline, Header.ofLine_append hleft] at h
    simp only [separatorMismatch] at h
    split at h
    · cases h
      exact ⟨⟨left, [':'], right⟩, hline.symm, rfl, Or.inr ⟨rfl, hleft⟩⟩
    · cases h
  · rw [Header.ofLine_of_not_mem hcolon] at h
    cases h
    exact ⟨⟨[], headerLine message.toList, []⟩, by simp [Part.text], by simp [Part.span, Header.text],
      Or.inl ⟨⟨rfl, rfl⟩, hcolon⟩⟩

theorem pointsAt_of_typeMismatch {left right : List Char} {types : List Value}
    (h : typeMismatch ⟨left, some right⟩ types = .ok (some x)) :
    x.PointsAt (left ++ ':' :: right) fun p => p.before = [] ∧ p.chars = x.value.toList := by
  obtain ⟨rest, hrest⟩ := Header.typeToken_prefix left (some right)
  simp only [typeMismatch] at h
  split at h
  · cases h
  · obtain ⟨ts, _, hx⟩ := Except.map_eq_ok.1 h
    cases hx
    refine ⟨⟨[], Header.typeToken ⟨left, some right⟩, rest ++ ':' :: right⟩, ?_, ?_, rfl, ?_⟩
    · rw [Part.text, List.nil_append, ← List.append_assoc, hrest]
    · simp [Part.span]
    · exact String.toList_ofList.symm

theorem pointsAt_of_checkType (h : checkType message ps = .ok (some x)) :
    x.PointsAt (headerLine message.toList) fun p => p.before = [] ∧ p.chars = x.value.toList := by
  unfold checkType at h
  split at h
  · cases h
  · rename_i header hheader
    obtain ⟨left, right, rfl, _, hline⟩ := separated?_eq_some hheader
    obtain ⟨types, _, h⟩ := Except.bind_eq_ok.1 h
    rw [hline]
    exact pointsAt_of_typeMismatch h

/-- Whether a part is a pair of parentheses with nothing but blanks between them. -/
def IsEmptyScope (p : Part) : Prop :=
  ∃ blanks, Text.allBlank blanks = true ∧ p.chars = '(' :: (blanks ++ [')'])

theorem pointsAt_of_checkScope (h : checkScope message ps = some x) :
    x.PointsAt (headerLine message.toList) IsEmptyScope := by
  obtain ⟨header, hheader, h⟩ := Option.bind_eq_some_iff.1 h
  obtain ⟨left, right, rfl, _, hline⟩ := separated?_eq_some hheader
  obtain ⟨⟨start, stop⟩, hbounds, h⟩ := Option.bind_eq_some_iff.1 h
  obtain ⟨front, scope, back, rfl, rfl, rfl⟩ := exists_parens_of_scopeBounds? hbounds
  dsimp only at h
  split at h
  · rename_i hblank
    cases h
    rw [drop_take_parens] at hblank
    refine ⟨⟨front, '(' :: (scope ++ [')']), back ++ ':' :: right⟩, ?_, ?_, scope, hblank, rfl⟩
    · rw [hline]
      simp [Part.text]
    · simp [Part.span, Nat.add_assoc]
  · cases h

/-- Whether a part is everything in front of the colon, or a mark right in front of it. -/
def IsPrefixOrMark (p : Part) : Prop :=
  p.rest.head? = some ':' ∧ ':' ∉ p.before ++ p.chars ∧ (p.before = [] ∨ p.chars = ['!'])

theorem pointsAt_of_checkHeading (h : checkHeading message ps = some x) :
    x.PointsAt (headerLine message.toList) IsPrefixOrMark := by
  obtain ⟨header, hheader, h⟩ := Option.bind_eq_some_iff.1 h
  obtain ⟨left, right, rfl, hleft, hline⟩ := separated?_eq_some hheader
  simp only [headingMismatch] at h
  split at h
  · cases h
    exact ⟨⟨[], left, ':' :: right⟩, hline.symm, by simp [Part.span], rfl, hleft, Or.inl rfl⟩
  · rename_i p hp
    obtain ⟨_, rfl⟩ := Heading.parse_eq_some_iff.1 hp
    split at h
    · rename_i hbreaking
      cases h
      have htext : p.text = (p.type ++ Heading.scopeText p.scope) ++ ['!'] := by
        rw [Heading.text, (Bool.and_eq_true_iff.1 hbreaking).1, List.append_assoc]
        rfl
      rw [htext] at hleft hline
      refine ⟨⟨p.type ++ Heading.scopeText p.scope, ['!'], ':' :: right⟩, ?_, ?_, rfl, hleft, Or.inr rfl⟩
      · rw [hline]
        simp [Part.text]
      · simp [Part.span, htext, Nat.add_assoc]
    · cases h

/-- Whether a part is everything from the first colon on, with nothing but blanks behind the colon. -/
def IsBlankEnd (p : Part) : Prop :=
  ':' ∉ p.before ∧ p.rest = [] ∧ ∃ blanks, Text.allBlank blanks = true ∧ p.chars = ':' :: blanks

theorem pointsAt_of_checkDescription (h : checkDescription message ps = some x) :
    x.PointsAt (headerLine message.toList) IsBlankEnd := by
  obtain ⟨header, hheader, h⟩ := Option.bind_eq_some_iff.1 h
  obtain ⟨left, right, rfl, hleft, hline⟩ := separated?_eq_some hheader
  rw [descriptionMismatch, allBlank_description] at h
  split at h
  · rename_i hblank
    cases h
    refine ⟨⟨left, ':' :: right, []⟩, ?_, ?_, hleft, rfl, right, hblank, rfl⟩
    · rw [hline]
      simp [Part.text]
    · simp [Part.span, Header.text]
  · cases h

end Commit

/-! ## Identifiers -/

theorem Casing.violation?_eq_some {casing : Casing} {cs : List Char} {i : Nat} (h : casing.violation? cs = some i) :
    i ≤ cs.length ∧ (cs = [] ∨ i < cs.length) := by
  cases cs with
  | nil =>
      cases h
      exact ⟨Nat.le_refl _, Or.inl rfl⟩
  | cons c cs =>
      have hlt : i < (c :: cs).length := by
        rw [violation?] at h
        split at h
        · cases h
          exact Nat.zero_lt_succ _
        · exact (List.findIdx?_eq_some_iff_getElem.1 h).1
      exact ⟨hlt.le, Or.inr hlt⟩

theorem Casing.pointsAt_of_check {name : String} {kind : IdentifierKind} {x : Mismatch}
    (h : check name kind = some x) :
    x.PointsAt name.toList fun p => p.chars.length = 1 ∨ p.text = [] := by
  obtain ⟨i, hi, rfl⟩ := Option.map_eq_some_iff.1 h
  obtain ⟨hle, hlt⟩ := violation?_eq_some hi
  obtain ⟨p, htext, hspan, _, hone⟩ := Part.exists_char hle
  exact ⟨p, htext, congrArg some hspan.symm, (hlt.imp htext.trans hone).symm⟩

namespace NodeSuffix

/-- Whether a part is the run of upper-case letters at the end of a name. -/
def IsCapitals (p : Part) : Prop :=
  p.rest = [] ∧ (∀ c ∈ p.chars, Text.isUpper c = true) ∧ ∀ c, p.before.getLast? = some c → Text.isUpper c = false

theorem pointsAt_mismatch (name : String) (suffixes : List String) :
    (mismatch name.toList suffixes).PointsAt name.toList IsCapitals := by
  have hsplit : name.toList.rdropWhile Text.isUpper ++ capitals name.toList = name.toList :=
    List.rdropWhile_append_rtakeWhile
  refine ⟨⟨name.toList.rdropWhile Text.isUpper, capitals name.toList, []⟩, ?_, ?_, rfl, ?_, ?_⟩
  · rw [Part.text, List.append_nil, hsplit]
  · have hlength := congrArg List.length hsplit
    rw [List.length_append] at hlength
    simp only [mismatch, Part.span, Option.some.injEq]
    congr 1 <;> omega
  · intro c hc
    exact List.mem_rtakeWhile_imp hc
  · intro c hc
    have hne : name.toList.rdropWhile Text.isUpper ≠ [] := by
      intro hnil
      rw [hnil] at hc
      cases hc
    rw [List.getLast?_eq_some_getLast hne] at hc
    cases hc
    exact Bool.eq_false_iff.2 (List.rdropWhile_last_not Text.isUpper _ hne)

theorem pointsAt_of_check {name : String} {kind : IdentifierKind} {ps : Params} {x : Mismatch}
    (h : check name kind ps = .ok (some x)) : x.PointsAt name.toList IsCapitals := by
  obtain ⟨suffixes, rfl⟩ := eq_mismatch_of_check h
  exact pointsAt_mismatch name suffixes

end NodeSuffix

/-! ## Paths -/

namespace Place

variable {segments : List String} {kind : Option ArtifactKind} {x : Mismatch} {ps : Params}

/-- The segments in the middle of a path stand in its text. -/
theorem exists_part_segmentSpan (front back : List String) {middle : List String} (h : middle ≠ []) :
    ∃ p : Part, p.text = (displayPath (front ++ (middle ++ back))).toList ∧
      p.span = segmentSpan (front ++ (middle ++ back)) front.length (front.length + middle.length) ∧
      p.chars = (displayPath middle).toList ∧ (front = [] → p.before = []) ∧ (back = [] → p.rest = []) := by
  have hmiddle : middle.map String.toList ≠ [] := by simpa using h
  obtain ⟨rest, hrest, hback⟩ : ∃ rest,
      (displayPath (middle ++ back)).toList = (displayPath middle).toList ++ rest ∧ (back = [] → rest = []) := by
    by_cases hb : back = []
    · exact ⟨[], by rw [hb, List.append_nil, List.append_nil], fun _ => rfl⟩
    · have hne : back.map String.toList ≠ [] := by simpa using hb
      refine ⟨'/' :: (displayPath back).toList, ?_, fun h => absurd h hb⟩
      rw [toList_displayPath, toList_displayPath, toList_displayPath, List.map_append, Text.join_append _ hne,
        Text.flatMap_concat_sep hmiddle]
      simp
  have htext : (displayPath (front ++ (middle ++ back))).toList =
      (front.flatMap fun s => s.toList ++ ['/']) ++ ((displayPath middle).toList ++ rest) := by
    rw [← hrest, toList_displayPath, toList_displayPath, List.map_append,
      Text.join_append _ (by simp [h]), List.flatMap_map]
  refine ⟨⟨front.flatMap fun s : String => s.toList ++ ['/'], (displayPath middle).toList, rest⟩, htext.symm, ?_, rfl,
    ?_, hback⟩
  · have hlast : ((front ++ (middle ++ back)).take (front.length + middle.length)).drop front.length = middle := by
      simp [List.take_append]
    simp only [segmentSpan, hlast, List.take_left]
    rfl
  · rintro rfl
    rfl

theorem pointsAt_of_rootMismatch {schema : Schema} (h : rootMismatch schema segments = some x)
    (hne : segments ≠ []) : x.PointsAt (displayPath segments).toList fun p =>
      p.before = [] ∧ segments.head? = some (String.ofList p.chars) := by
  cases segments with
  | nil => exact absurd rfl hne
  | cons first rest =>
      simp only [rootMismatch] at h
      split at h
      · cases h
      · cases h
        obtain ⟨p, htext, hspan, hchars, hbefore, _⟩ :=
          exists_part_segmentSpan [] rest (List.cons_ne_nil first [])
        refine ⟨p, htext, congrArg some hspan.symm, hbefore rfl, ?_⟩
        rw [hchars, String.ofList_toList]
        simp [displayPath]

theorem pointsAt_of_kindMismatch {schema : Schema} (h : kindMismatch schema segments kind = some x) :
    x.PointsAt (displayPath segments).toList fun p =>
      p.before = [] ∧ (schema.walk segments.dropLast).rootKnown = true ∧
        p.chars = (displayPath (segments.take (schema.walk segments.dropLast).depth)).toList := by
  have hroot := (of_kindMismatch_eq_some h).2.1
  unfold kindMismatch at h
  split at h
  · cases h
  · obtain ⟨k, _, h⟩ := Option.bind_eq_some_iff.1 h
    dsimp only at h
    split at h
    · cases h
    · cases h
      generalize hdepth : (schema.walk segments.dropLast).depth = n at *
      have hpos : n ≠ 0 := by simpa [Placement.rootKnown, hdepth] using hroot
      have hle : n ≤ segments.length := by
        have hwalk := schema.depth_walk_le segments.dropLast
        rw [hdepth, List.length_dropLast] at hwalk
        omega
      have hlength : (segments.take n).length = n := by rw [List.length_take, Nat.min_eq_left hle]
      have hne : segments.take n ≠ [] := by
        intro hnil
        rw [hnil] at hlength
        exact hpos hlength.symm
      obtain ⟨p, htext, hspan, hchars, hbefore, _⟩ := exists_part_segmentSpan [] (segments.drop n) hne
      rw [List.nil_append, List.take_append_drop] at htext hspan
      rw [hlength, List.length_nil, Nat.zero_add] at hspan
      exact ⟨p, htext, congrArg some hspan.symm, hbefore rfl, hroot, hchars⟩

theorem pointsAt_of_extensionMismatch (h : extensionMismatch segments kind = some x) :
    x.PointsAt (displayPath segments).toList fun p =>
      p.rest = [] ∧ segments.getLast? = some (String.ofList p.chars) := by
  unfold extensionMismatch at h
  split at h
  · cases h
  · rename_i name hname
    split at h
    · cases h
    · cases h
      obtain ⟨init, rfl⟩ := List.getLast?_eq_some_iff.1 hname
      obtain ⟨p, htext, hspan, hchars, _, hrest⟩ := exists_part_segmentSpan init [] (List.cons_ne_nil name [])
      refine ⟨p, htext, ?_, hrest rfl, ?_⟩
      · rw [hspan, List.length_append]
        rfl
      · rw [hname, hchars, String.ofList_toList]
        simp [displayPath]

end Place

/-! ## All checks -/

namespace Matcher

/-- What the part that a check points at is. -/
def ObjectsTo (ps : Params) (x : Mismatch) (p : Part) : Matcher → Request → Prop
  | .branchIssueNumber, _ => Branch.IsHead p
  | .branchTitle, _ => p.IsChar
  | .commitSeparator, _ => Commit.IsHeaderOrColon p
  | .commitType, _ => p.before = [] ∧ p.chars = x.value.toList
  | .commitScope, _ => Commit.IsEmptyScope p
  | .commitHeader, _ => Commit.IsPrefixOrMark p
  | .commitDescription, _ => Commit.IsBlankEnd p
  | .identifierCasing, _ => p.chars.length = 1 ∨ p.text = []
  | .nodeSuffix, _ => NodeSuffix.IsCapitals p
  | .placementRoot, .path segments _ => p.before = [] ∧ segments.head? = some (String.ofList p.chars)
  | .placementKind, .path segments _ => ∃ schema, ps.schema? = some schema ∧ p.before = [] ∧
      (schema.walk segments.dropLast).rootKnown = true ∧
        p.chars = (displayPath (segments.take (schema.walk segments.dropLast).depth)).toList
  | .placementExtension, .path segments _ => p.rest = [] ∧ segments.getLast? = some (String.ofList p.chars)
  | _, _ => False

variable {m : Matcher} {q : Request} {ps : Params} {x : Mismatch}

theorem pointsAt_of_run (h : m.run q ps = .ok (some x)) (hq : ∀ kind, q ≠ .path [] kind) :
    x.PointsAt q.checkedText fun p => m.ObjectsTo ps x p q := by
  unfold run at h
  split at h
  · exact Branch.pointsAt_of_checkIssueNumber h
  · exact Branch.pointsAt_of_checkTitle h
  · exact Commit.pointsAt_of_checkSeparator (Except.ok.inj h)
  · exact Commit.pointsAt_of_checkType h
  · exact Commit.pointsAt_of_checkScope (Except.ok.inj h)
  · exact Commit.pointsAt_of_checkHeading (Except.ok.inj h)
  · exact Commit.pointsAt_of_checkDescription (Except.ok.inj h)
  · exact Casing.pointsAt_of_check (Except.ok.inj h)
  · exact NodeSuffix.pointsAt_of_check h
  · rename_i segments kind
    obtain ⟨schema, _, h⟩ := Except.map_eq_ok.1 h
    exact Place.pointsAt_of_rootMismatch h fun hnil => hq kind (by rw [hnil])
  · obtain ⟨schema, hschema, h⟩ := Except.map_eq_ok.1 h
    obtain ⟨p, htext, hspan, hp⟩ := Place.pointsAt_of_kindMismatch h
    exact ⟨p, htext, hspan, schema, Place.schemaOf_eq_ok_iff.1 hschema, hp⟩
  · exact Place.pointsAt_of_extensionMismatch (Except.ok.inj h)
  · cases h

theorem span_eq_none_of_run {kind : Option ArtifactKind} (h : m.run (.path [] kind) ps = .ok (some x)) :
    x.span = none := by
  cases m with
  | placementRoot =>
      obtain ⟨schema, _, h⟩ := Except.map_eq_ok.1 h
      cases h
      rfl
  | placementKind =>
      obtain ⟨schema, _, h⟩ := Except.map_eq_ok.1 h
      cases h
  | _ => cases h

/-- What a check reports comes with a span exactly if the request is not a path without segments. The span lies in the
text that was checked, and selects what the check objects to. -/
theorem span_of_run (h : m.run q ps = .ok (some x)) :
    (x.span = none ↔ ∃ kind, q = .path [] kind) ∧
      ∀ s, x.span = some s → 0 ≤ s.start ∧ s.start ≤ s.stop ∧ s.stop ≤ q.checkedText.length ∧
        ∃ p : Part, p.text = q.checkedText ∧ p.span = s ∧ m.ObjectsTo ps x p q := by
  by_cases hq : ∃ kind, q = .path [] kind
  · obtain ⟨kind, rfl⟩ := hq
    have hnone := span_eq_none_of_run h
    refine ⟨iff_of_true hnone ⟨kind, rfl⟩, ?_⟩
    intro s hs
    rw [hnone] at hs
    cases hs
  · obtain ⟨p, htext, hspan, hp⟩ := pointsAt_of_run h (not_exists.1 hq)
    refine ⟨iff_of_false (by simp [hspan]) hq, ?_⟩
    intro s hs
    rw [hspan] at hs
    cases hs
    obtain ⟨hstart, hstop, hlength⟩ := p.span_bounds
    exact ⟨hstart, hstop, htext ▸ hlength, p, htext, rfl, hp⟩

/-- The scope of `feat( ): add page` is blank, and the report about it selects the parentheses. -/
theorem span_of_run_emptyScope :
    ∃ x : Mismatch, commitScope.run (.commit "feat( ): add page") [] = .ok (some x) ∧ x.span = some (.between 4 7) ∧
      ∃ p : Part, p.text = "feat( ): add page".toList ∧ p.span = .between 4 7 ∧ Commit.IsEmptyScope p := by
  have hrun : commitScope.run (.commit "feat( ): add page") [] =
      .ok (some ⟨"feat( )", "a non-empty scope inside '( )'", some (.between 4 7), "empty scope"⟩) := by decide
  have hline : Commit.headerLine "feat( ): add page".toList = "feat( ): add page".toList := by decide
  obtain ⟨_, hselects⟩ := span_of_run hrun
  obtain ⟨_, _, _, p, htext, hspan, hp⟩ := hselects _ rfl
  exact ⟨_, hrun, rfl, p, htext.trans hline, hspan, hp⟩

end Matcher

end Conventions
