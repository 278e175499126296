import Mathlib.Data.List.TakeWhile
import Conventions.Source.Script
import Conventions.Proofs.Project
import Conventions.Proofs.Text

/-!
# Declarations of a script and their grammar

A line declares a name exactly if it is written by the grammar of declarations: blanks, what may stand in front of the
keyword, the keyword, blanks, and the name up to its last word character. The reader never goes back: each part ends
where the next one begins, as blanks, word characters, `@` and parentheses tell them apart. So a line has at most one
form.
-/

namespace Conventions

theorem Text.isWord_eq_false_of_isBlank {c : Char} (h : isBlank c = true) : isWord c = false := by
  have hcodes : ∀ r ∈ blankRanges, ∀ n < r.2 - r.1 + 1, isWord (Char.ofNat (r.1 + n)) = false := by decide +kernel
  obtain ⟨r, hr, hlow, hhigh⟩ := exists_range_of_inRanges h
  have hcode := hcodes r hr (c.toNat - r.1) (by omega)
  rwa [Nat.add_sub_cancel' hlow, Char.ofNat_toNat] at hcode

namespace Script

/-! ## The grammar -/

/-- Blanks, at least one. -/
def IsGap (cs : List Char) : Prop := cs ≠ [] ∧ ∀ c ∈ cs, Text.isBlank c = true

/-- Word characters, at least one. -/
def IsWord (cs : List Char) : Prop := cs ≠ [] ∧ ∀ c ∈ cs, Text.isWord c = true

/-- The arguments of an annotation: none, or parentheses around a text without a closing one. -/
def IsArguments (cs : List Char) : Prop := cs = [] ∨ ∃ inner, ')' ∉ inner ∧ cs = '(' :: (inner ++ [')'])

/-- An annotation with the blanks behind it. -/
def IsAnnotation (cs : List Char) : Prop :=
  ∃ word arguments gap, IsWord word ∧ IsArguments arguments ∧ IsGap gap ∧ cs = '@' :: (word ++ (arguments ++ gap))

/-- The word `static` with the blanks behind it, or nothing. -/
def IsStatic (cs : List Char) : Prop := cs = [] ∨ ∃ gap, IsGap gap ∧ cs = "static".toList ++ gap

/-- What may stand in front of the keyword of a variable or a function. -/
def IsFront (cs : List Char) : Prop :=
  ∃ (annotations : List (List Char)) (static : List Char),
    (∀ a ∈ annotations, IsAnnotation a) ∧ IsStatic static ∧ cs = annotations.flatten ++ static

/-- A keyword, blanks and a name, behind which no further word character stands. -/
def Introduces (keyword : String) (cs name : List Char) : Prop :=
  ∃ gap rest, IsGap gap ∧ IsWord name ∧ (∀ c, rest.head? = some c → Text.isWord c = false) ∧
    cs = keyword.toList ++ (gap ++ (name ++ rest))

/-- The keywords that may have something in front of them, with the kinds that they declare. -/
def annotatedKeywords : List (String × IdentifierKind) := [("var", .variable), ("func", .function)]

/-- The keywords that stand alone, with the kinds that they declare. -/
def bareKeywords : List (String × IdentifierKind) :=
  [("const", .constant), ("signal", .signal), ("class_name", .className), ("class", .className)]

/-- The lines that declare a name of a kind. -/
inductive Declares : List Char → List Char → IdentifierKind → Prop
  | annotated {keyword kind blanks front cs name} : (keyword, kind) ∈ annotatedKeywords →
      Text.allBlank blanks = true → IsFront front → Introduces keyword cs name →
        Declares (blanks ++ (front ++ cs)) name kind
  | bare {keyword kind blanks cs name} : (keyword, kind) ∈ bareKeywords → Text.allBlank blanks = true →
      Introduces keyword cs name → Declares (blanks ++ cs) name kind

variable {word cs rest gap name : List Char}

/-! ## Words and blanks -/

/-- Whether a text does not begin with a blank. -/
def IsSolid (cs : List Char) : Prop := ∀ c, cs.head? = some c → Text.isBlank c = false

theorem isWord_of_head? (h : IsWord word) (rest : List Char) :
    ∀ c, (word ++ rest).head? = some c → Text.isWord c = true := by
  obtain ⟨c, word, rfl⟩ := List.exists_cons_of_ne_nil h.1
  rintro d ⟨⟩
  exact h.2 c List.mem_cons_self

theorem isSolid_of_word (h : ∀ c, cs.head? = some c → Text.isWord c = true) : IsSolid cs := by
  intro c hc
  rw [Bool.eq_false_iff]
  intro hblank
  have hword := h c hc
  rw [Text.isWord_eq_false_of_isBlank hblank] at hword
  cases hword

theorem isSolid_of_isWord (h : IsWord word) (rest : List Char) : IsSolid (word ++ rest) :=
  isSolid_of_word (isWord_of_head? h rest)

theorem isSolid_trimStart (cs : List Char) : IsSolid (Text.trimStart cs) := by
  intro c hc
  have hhead := List.head?_dropWhile_not Text.isBlank cs
  rw [Text.trimStart] at hc
  rw [hc] at hhead
  exact hhead

theorem head?_gap (h : IsGap gap) (rest : List Char) : ∃ c, (gap ++ rest).head? = some c ∧ Text.isBlank c = true := by
  obtain ⟨c, gap, rfl⟩ := List.exists_cons_of_ne_nil h.1
  exact ⟨c, rfl, h.2 c List.mem_cons_self⟩

theorem after?_eq_some_iff : after? word cs = some rest ↔ cs = word ++ rest := by
  rw [after?]
  split
  · rename_i hprefix
    obtain ⟨t, rfl⟩ := List.isPrefixOf_iff_prefix.1 hprefix
    simp
  · rename_i hprefix
    rw [List.isPrefixOf_iff_prefix] at hprefix
    simp only [reduceCtorEq, false_iff]
    rintro rfl
    exact hprefix (List.prefix_append word rest)

theorem blanks?_eq_some_iff : blanks? cs = some rest ↔ ∃ gap, IsGap gap ∧ IsSolid rest ∧ cs = gap ++ rest := by
  constructor
  · intro h
    cases cs with
    | nil => cases h
    | cons c cs =>
        rw [blanks?] at h
        split at h
        · rename_i hblank
          cases h
          refine ⟨c :: cs.takeWhile Text.isBlank, ⟨List.cons_ne_nil _ _, ?_⟩, isSolid_trimStart cs, ?_⟩
          · exact List.forall_mem_cons.2 ⟨hblank, fun d hd => List.mem_takeWhile_imp hd⟩
          · rw [Text.trimStart, List.cons_append, List.takeWhile_append_dropWhile]
        · cases h
  · rintro ⟨gap, ⟨hne, hblank⟩, hsolid, rfl⟩
    obtain ⟨c, gap, rfl⟩ := List.exists_cons_of_ne_nil hne
    rw [List.forall_mem_cons] at hblank
    rw [List.cons_append, blanks?, if_pos hblank.1, Text.trimStart, Text.dropWhile_append_of_head hblank.2 hsolid]

/-! ## Annotations -/

theorem skipArguments_of_ne (h : cs.head? ≠ some '(') : skipArguments cs = cs := by
  rw [skipArguments.eq_2]
  rintro rest rfl
  exact h rfl

theorem skipArguments_append {arguments : List Char} (harguments : IsArguments arguments) (hgap : IsGap gap)
    (rest : List Char) : skipArguments (arguments ++ (gap ++ rest)) = gap ++ rest := by
  rcases harguments with rfl | ⟨inner, hinner, rfl⟩
  · refine skipArguments_of_ne ?_
    obtain ⟨c, hc, hblank⟩ := head?_gap hgap rest
    rw [List.nil_append, hc]
    rintro ⟨⟩
    revert hblank
    decide
  · have hsplit : '(' :: (inner ++ [')']) ++ (gap ++ rest) = '(' :: (inner ++ ')' :: (gap ++ rest)) := by simp
    rw [hsplit, skipArguments, Text.dropWhile_ne_append hinner]

theorem exists_skipArguments (cs : List Char) :
    ∃ arguments, IsArguments arguments ∧ cs = arguments ++ skipArguments cs := by
  by_cases h : cs.head? = some '('
  · obtain ⟨cs, rfl⟩ := List.head?_eq_some_iff.1 h
    by_cases hclose : ')' ∈ cs
    · obtain ⟨inner, rest, rfl, hinner⟩ := List.eq_append_cons_of_mem hclose
      refine ⟨'(' :: (inner ++ [')']), Or.inr ⟨inner, hinner, rfl⟩, ?_⟩
      rw [skipArguments, Text.dropWhile_ne_append hinner]
      simp
    · refine ⟨[], Or.inl rfl, ?_⟩
      rw [skipArguments, List.dropWhile_eq_nil_iff.2 (Text.ne_of_not_mem hclose)]
      rfl
  · exact ⟨[], Or.inl rfl, (skipArguments_of_ne h).symm⟩

/-- Behind the word of an annotation stands a parenthesis or a blank. -/
theorem isWord_eq_false_of_head? {arguments : List Char} (harguments : IsArguments arguments) (hgap : IsGap gap)
    (rest : List Char) : ∀ c, (arguments ++ (gap ++ rest)).head? = some c → Text.isWord c = false := by
  rcases harguments with rfl | ⟨inner, _, rfl⟩
  · obtain ⟨d, hd, hblank⟩ := head?_gap hgap rest
    intro c hc
    cases hd.symm.trans hc
    exact Text.isWord_eq_false_of_isBlank hblank
  · rintro c ⟨⟩
    decide

theorem annotation?_eq_some_iff :
    annotation? cs = some rest ↔ ∃ a, IsAnnotation a ∧ IsSolid rest ∧ cs = a ++ rest := by
  constructor
  · intro h
    unfold annotation? at h
    split at h
    · rename_i cs
      split at h
      · cases h
      · rename_i hword
        obtain ⟨gap, hgap, hsolid, hrest⟩ := blanks?_eq_some_iff.1 h
        obtain ⟨arguments, harguments, hsplit⟩ := exists_skipArguments (cs.dropWhile Text.isWord)
        refine ⟨'@' :: (cs.takeWhile Text.isWord ++ (arguments ++ gap)), ?_, hsolid, ?_⟩
        · exact ⟨_, arguments, gap, ⟨by simpa using hword, fun c hc => List.mem_takeWhile_imp hc⟩, harguments, hgap,
            rfl⟩
        · rw [hrest] at hsplit
          rw [List.cons_append, List.append_assoc, List.append_assoc, ← hsplit, List.takeWhile_append_dropWhile]
    · cases h
  · rintro ⟨a, ⟨word, arguments, gap, hword, harguments, hgap, rfl⟩, hsolid, rfl⟩
    have hsplit : '@' :: (word ++ (arguments ++ gap)) ++ rest = '@' :: (word ++ (arguments ++ (gap ++ rest))) := by simp
    have hhead := isWord_eq_false_of_head? harguments hgap rest
    rw [hsplit, annotation?, Text.takeWhile_append_of_head hword.2 hhead, Text.dropWhile_append_of_head hword.2 hhead,
      if_neg (by simpa using hword.1), skipArguments_append harguments hgap]
    exact blanks?_eq_some_iff.2 ⟨gap, hgap, hsolid, rfl⟩

theorem isSolid_annotation {a : List Char} (h : IsAnnotation a) (rest : List Char) : IsSolid (a ++ rest) := by
  obtain ⟨word, arguments, gap, _, _, _, rfl⟩ := h
  rintro c ⟨⟩
  decide

/-! ## What stands in front of a keyword -/

theorem skipAnnotations_eq (cs : List Char) :
    skipAnnotations cs = match annotation? cs with
      | none => cs
      | some rest => skipAnnotations rest := by
  rw [skipAnnotations]
  split <;> simp [*]

theorem skipAnnotations_of_ne (h : cs.head? ≠ some '@') : skipAnnotations cs = cs := by
  have hnone : annotation? cs = none := by
    rw [annotation?.eq_2]
    rintro rest rfl
    exact h rfl
  rw [skipAnnotations_eq, hnone]

theorem skipAnnotations_append {annotations : List (List Char)} (h : ∀ a ∈ annotations, IsAnnotation a)
    (hsolid : IsSolid rest) (hat : rest.head? ≠ some '@') : skipAnnotations (annotations.flatten ++ rest) = rest := by
  induction annotations with
  | nil => exact skipAnnotations_of_ne hat
  | cons a annotations ih =>
      rw [List.forall_mem_cons] at h
      -- The blanks behind an annotation end here: what follows is another annotation or the rest.
      have hrest : IsSolid (annotations.flatten ++ rest) := by
        cases annotations with
        | nil => exact hsolid
        | cons b annotations =>
            rw [List.flatten_cons, List.append_assoc]
            exact isSolid_annotation (h.2 b List.mem_cons_self) _
      have hannotation : annotation? (a ++ (annotations.flatten ++ rest)) = some (annotations.flatten ++ rest) :=
        annotation?_eq_some_iff.2 ⟨a, h.1, hrest, rfl⟩
      rw [List.flatten_cons, List.append_assoc, skipAnnotations_eq, hannotation]
      exact ih h.2

theorem exists_skipAnnotations (cs : List Char) : ∃ annotations : List (List Char),
    (∀ a ∈ annotations, IsAnnotation a) ∧ cs = annotations.flatten ++ skipAnnotations cs := by
  fun_induction skipAnnotations cs with
  | case1 cs _ => exact ⟨[], by simp, rfl⟩
  | case2 cs rest h ih =>
      obtain ⟨a, ha, _, hcs⟩ := annotation?_eq_some_iff.1 h
      obtain ⟨annotations, hall, hrest⟩ := ih
      refine ⟨a :: annotations, List.forall_mem_cons.2 ⟨ha, hall⟩, ?_⟩
      rw [hcs, List.flatten_cons, List.append_assoc, ← hrest]

theorem skipStatic_append {static : List Char} (h : IsStatic static) (hsolid : IsSolid rest)
    (hstatic : ¬"static".toList <+: rest) : skipStatic (static ++ rest) = rest := by
  rcases h with rfl | ⟨gap, hgap, rfl⟩
  · have hnone : after? "static".toList rest = none := by
      rw [Option.eq_none_iff_forall_ne_some]
      intro t ht
      exact hstatic ⟨t, (after?_eq_some_iff.1 ht).symm⟩
    rw [List.nil_append, skipStatic, hnone]
    rfl
  · have hafter : after? "static".toList ("static".toList ++ gap ++ rest) = some (gap ++ rest) :=
      after?_eq_some_iff.2 (List.append_assoc ..)
    rw [skipStatic, hafter, Option.bind_some, blanks?_eq_some_iff.2 ⟨gap, hgap, hsolid, rfl⟩, Option.getD_some]

theorem exists_skipStatic (cs : List Char) : ∃ static, IsStatic static ∧ cs = static ++ skipStatic cs := by
  cases h : (after? "static".toList cs).bind blanks? with
  | none => exact ⟨[], Or.inl rfl, by rw [skipStatic, h]; rfl⟩
  | some rest =>
      obtain ⟨t, ht, hrest⟩ := Option.bind_eq_some_iff.1 h
      obtain ⟨gap, hgap, _, rfl⟩ := blanks?_eq_some_iff.1 hrest
      refine ⟨"static".toList ++ gap, Or.inr ⟨gap, hgap, rfl⟩, ?_⟩
      rw [skipStatic, h, after?_eq_some_iff.1 ht, Option.getD_some, List.append_assoc]

/-- The rest of a text after everything that may stand in front of a keyword. -/
def skipFront (cs : List Char) : List Char := skipStatic (skipAnnotations cs)

theorem skipFront_append {front : List Char} (h : IsFront front) (hsolid : IsSolid rest) (hat : rest.head? ≠ some '@')
    (hstatic : ¬"static".toList <+: rest) : skipFront (front ++ rest) = rest := by
  obtain ⟨annotations, static, hannotations, hstatic', rfl⟩ := h
  have hrest : IsSolid (static ++ rest) ∧ (static ++ rest).head? ≠ some '@' := by
    rcases hstatic' with rfl | ⟨gap, _, rfl⟩
    · exact ⟨hsolid, hat⟩
    · refine ⟨?_, show some 's' ≠ some '@' by decide⟩
      rintro c ⟨⟩
      decide
  rw [skipFront, List.append_assoc, skipAnnotations_append hannotations hrest.1 hrest.2]
  exact skipStatic_append hstatic' hsolid hstatic

theorem exists_skipFront (cs : List Char) : ∃ front, IsFront front ∧ cs = front ++ skipFront cs := by
  obtain ⟨annotations, hannotations, hcs⟩ := exists_skipAnnotations cs
  obtain ⟨static, hstatic, hrest⟩ := exists_skipStatic (skipAnnotations cs)
  refine ⟨annotations.flatten ++ static, ⟨annotations, static, hannotations, hstatic, rfl⟩, ?_⟩
  rw [skipFront, List.append_assoc, ← hrest]
  exact hcs

theorem head?_of_isFront {front : List Char} (h : IsFront front) :
    front = [] ∨ front.head? = some '@' ∨ front.head? = some 's' := by
  obtain ⟨annotations, static, hannotations, hstatic, rfl⟩ := h
  cases annotations with
  | nil =>
      rcases hstatic with rfl | ⟨gap, _, rfl⟩
      · exact Or.inl rfl
      · exact Or.inr (Or.inr rfl)
  | cons a annotations =>
      obtain ⟨word, arguments, gap, _, _, _, rfl⟩ := hannotations a List.mem_cons_self
      exact Or.inr (Or.inl rfl)

/-! ## Keywords and names -/

theorem named?_eq_some_iff {keyword : String} : named? keyword cs = some name ↔ Introduces keyword cs name := by
  constructor
  · intro h
    obtain ⟨t, ht, hname⟩ := Option.bind_eq_some_iff.1 h
    obtain ⟨u, hu, hblanks⟩ := Option.bind_eq_some_iff.1 ht
    obtain ⟨gap, hgap, _, rfl⟩ := blanks?_eq_some_iff.1 hblanks
    dsimp only at hname
    split at hname
    · cases hname
    · rename_i hne
      cases hname
      refine ⟨gap, t.dropWhile Text.isWord, hgap, ⟨by simpa using hne, fun c hc => List.mem_takeWhile_imp hc⟩, ?_, ?_⟩
      · intro c hc
        have hhead := List.head?_dropWhile_not Text.isWord t
        rw [hc] at hhead
        exact hhead
      · rw [List.takeWhile_append_dropWhile]
        exact after?_eq_some_iff.1 hu
  · rintro ⟨gap, rest, hgap, hword, hrest, rfl⟩
    rw [named?, after?_eq_some_iff.2 rfl, Option.bind_some,
      blanks?_eq_some_iff.2 ⟨gap, hgap, isSolid_of_isWord hword rest, rfl⟩, Option.bind_some]
    dsimp only
    rw [Text.takeWhile_append_of_head hword.2 hrest, if_neg (by simpa using hword.1)]

/-! ## Forms -/

/-- Whether a keyword can be told from what may stand in front of it. -/
structure IsKeyword (keyword : String) : Prop where
  word : IsWord keyword.toList
  not_static : ¬"static".toList <+: keyword.toList

theorem isKeyword_of_mem_forms : ∀ f ∈ forms, IsKeyword f.keyword := by
  have hkeywords : ∀ f ∈ forms, f.keyword.toList ≠ [] ∧ f.keyword.toList.all Text.isWord = true ∧
      "static".toList.isPrefixOf f.keyword.toList = false := by decide
  intro f hf
  obtain ⟨hne, hword, hstatic⟩ := hkeywords f hf
  refine ⟨⟨hne, List.all_eq_true.1 hword⟩, ?_⟩
  rw [← List.isPrefixOf_iff_prefix, hstatic]
  exact Bool.false_ne_true

section Keywords

variable {keyword : String} (hk : IsKeyword keyword) (h : Introduces keyword cs name)

include hk h

theorem isWord_of_introduces : ∀ c, cs.head? = some c → Text.isWord c = true := by
  obtain ⟨gap, rest, _, _, _, rfl⟩ := h
  exact isWord_of_head? hk.word _

theorem isSolid_of_introduces : IsSolid cs := isSolid_of_word (isWord_of_introduces hk h)

theorem takeWhile_of_introduces : cs.takeWhile Text.isWord = keyword.toList := by
  obtain ⟨gap, rest, hgap, _, _, rfl⟩ := h
  refine Text.takeWhile_append_of_head hk.word.2 ?_
  obtain ⟨d, hd, hblank⟩ := head?_gap hgap (name ++ rest)
  intro c hc
  cases hd.symm.trans hc
  exact Text.isWord_eq_false_of_isBlank hblank

/-- What stands in front of a keyword is skipped up to the keyword. -/
theorem skipFront_of_introduces {front : List Char} (hfront : IsFront front) : skipFront (front ++ cs) = cs := by
  refine skipFront_append hfront (isSolid_of_introduces hk h) ?_ ?_
  · intro hat
    exact absurd (isWord_of_introduces hk h '@' hat) (by decide)
  · intro hstatic
    -- The word in front of the first blank is the keyword, so `static` would begin the keyword.
    have hprefix := Text.takeWhile_prefix_takeWhile (p := Text.isWord) hstatic
    rw [takeWhile_of_introduces hk h] at hprefix
    exact hk.not_static hprefix

/-- A declaration begins with `@`, with `static` or with its keyword. -/
theorem head?_front_append {front : List Char} (hfront : IsFront front) :
    ∃ c, (front ++ cs).head? = some c ∧ Text.isBlank c = false ∧ c ≠ '#' := by
  have hstart : ∀ d, front.head? = some d → (front ++ cs).head? = some d := fun d hd => by
    rw [List.head?_append, hd, Option.some_or]
  rcases head?_of_isFront hfront with rfl | hat | hs
  · cases cs with
    | nil => exact absurd (takeWhile_of_introduces hk h).symm hk.word.1
    | cons c cs =>
        refine ⟨c, rfl, isSolid_of_introduces hk h c rfl, ?_⟩
        rintro rfl
        exact absurd (isWord_of_introduces hk h '#' rfl) (by decide)
  · exact ⟨'@', hstart '@' hat, by decide⟩
  · exact ⟨'s', hstart 's' hs, by decide⟩

end Keywords

/-- Whether a line declares a name in a form. -/
def Form.IsWritten (f : Form) (line name : List Char) : Prop :=
  ∃ blanks front cs, Text.allBlank blanks = true ∧ IsFront front ∧ (f.isAnnotated = false → front = []) ∧
    Introduces f.keyword cs name ∧ line = blanks ++ (front ++ cs)

variable {line : List Char} {kind : IdentifierKind} {f g : Form} {gs : List Form}

theorem isFront_nil : IsFront [] := ⟨[], [], by simp, Or.inl rfl, rfl⟩

theorem mem_forms_iff : f ∈ forms ↔ (f.isAnnotated = true ∧ (f.keyword, f.kind) ∈ annotatedKeywords) ∨
    (f.isAnnotated = false ∧ (f.keyword, f.kind) ∈ bareKeywords) := by
  obtain ⟨keyword, kind, isAnnotated⟩ := f
  cases isAnnotated with
  | false => simp [forms, bareKeywords]
  | true => simp [forms, annotatedKeywords]

theorem declares_iff : Declares line name kind ↔ ∃ f ∈ forms, f.kind = kind ∧ f.IsWritten line name := by
  constructor
  · intro h
    cases h with
    | @annotated keyword _ blanks front cs _ hk hblanks hfront h =>
        exact ⟨⟨keyword, kind, true⟩, mem_forms_iff.2 (Or.inl ⟨rfl, hk⟩), rfl, blanks, front, cs, hblanks, hfront,
          nofun, h, rfl⟩
    | @bare keyword _ blanks cs _ hk hblanks h =>
        exact ⟨⟨keyword, kind, false⟩, mem_forms_iff.2 (Or.inr ⟨rfl, hk⟩), rfl, blanks, [], cs, hblanks, isFront_nil,
          fun _ => rfl, h, rfl⟩
  · rintro ⟨f, hf, rfl, blanks, front, cs, hblanks, hfront, hbare, h, rfl⟩
    rcases mem_forms_iff.1 hf with ⟨_, hk⟩ | ⟨hannotated, hk⟩
    · exact .annotated hk hblanks hfront h
    · rw [hbare hannotated]
      exact .bare hk hblanks h

/-- The blanks in front of a written declaration are the ones that are trimmed. -/
theorem exists_of_isWritten (hf : f ∈ forms) (h : f.IsWritten line name) : ∃ front cs, IsFront front ∧
    (f.isAnnotated = false → front = []) ∧ Introduces f.keyword cs name ∧ Text.trimStart line = front ++ cs := by
  obtain ⟨blanks, front, cs, hblanks, hfront, hbare, h, rfl⟩ := h
  refine ⟨front, cs, hfront, hbare, h, Text.dropWhile_append_of_head (List.all_eq_true.1 hblanks) ?_⟩
  obtain ⟨d, hd, hblank, _⟩ := head?_front_append (isKeyword_of_mem_forms f hf) h hfront
  intro c hc
  cases hd.symm.trans hc
  exact hblank

theorem name?_eq_some_iff (hf : f ∈ forms) : f.name? line = some name ↔ f.IsWritten line name := by
  rw [Form.name?, named?_eq_some_iff]
  have hblanks : Text.allBlank (line.takeWhile Text.isBlank) = true :=
    List.all_eq_true.2 fun c hc => List.mem_takeWhile_imp hc
  have hline : line = line.takeWhile Text.isBlank ++ Text.trimStart line := List.takeWhile_append_dropWhile.symm
  constructor
  · intro h
    split at h
    · rename_i hannotated
      obtain ⟨front, hfront, hcs⟩ := exists_skipFront (Text.trimStart line)
      exact ⟨_, front, _, hblanks, hfront, fun hbare => by simp [hannotated] at hbare, h, hcs ▸ hline⟩
    · exact ⟨_, [], _, hblanks, isFront_nil, fun _ => rfl, h, hline⟩
  · intro h
    obtain ⟨front, cs, hfront, hbare, h, htrim⟩ := exists_of_isWritten hf h
    rw [htrim]
    split
    · rwa [← skipFront, skipFront_of_introduces (isKeyword_of_mem_forms f hf) h hfront]
    · rename_i hannotated
      rwa [hbare (Bool.eq_false_iff.2 hannotated)]

/-- A line is written in one form only, as its keyword is what is left of its first word after the front. -/
theorem eq_of_isWritten {m n : List Char} (hf : f ∈ forms) (hg : g ∈ forms) (hm : f.IsWritten line m)
    (hn : g.IsWritten line n) : f = g := by
  have hkeyword {k : Form} {name : List Char} (hk : k ∈ forms) (h : k.IsWritten line name) :
      (skipFront (Text.trimStart line)).takeWhile Text.isWord = k.keyword.toList := by
    obtain ⟨front, cs, hfront, _, h, htrim⟩ := exists_of_isWritten hk h
    have hk' := isKeyword_of_mem_forms k hk
    rw [htrim, skipFront_of_introduces hk' h hfront, takeWhile_of_introduces hk' h]
  have hdistinct : ∀ f ∈ forms, ∀ g ∈ forms, f.keyword = g.keyword → f = g := by decide
  exact hdistinct f hf g hg (String.toList_inj.1 ((hkeyword hf hm).symm.trans (hkeyword hg hn)))

/-! ## Lines -/

/-- Whichever order the forms are tried in, the line declares what is written in one of them. -/
theorem declaredIn?_eq_some_iff (hgs : ∀ g ∈ gs, g ∈ forms) :
    declaredIn? gs line = some (name, kind) ↔ ∃ f ∈ gs, f.kind = kind ∧ f.IsWritten line name := by
  have hfound {n : List Char} {k : IdentifierKind} (h : declaredIn? gs line = some (n, k)) :
      ∃ f ∈ gs, f.kind = k ∧ f.name? line = some n := by
    obtain ⟨f, hf, hname⟩ := List.exists_of_findSome?_eq_some h
    obtain ⟨n, hn, heq⟩ := Option.map_eq_some_iff.1 hname
    cases heq
    exact ⟨f, hf, rfl, hn⟩
  constructor
  · intro h
    obtain ⟨f, hf, hkind, hname⟩ := hfound h
    exact ⟨f, hf, hkind, (name?_eq_some_iff (hgs f hf)).1 hname⟩
  · rintro ⟨f, hf, rfl, h⟩
    have hname := (name?_eq_some_iff (hgs f hf)).2 h
    have hsome : (declaredIn? gs line).isSome := by
      rw [declaredIn?, List.findSome?_isSome_iff]
      exact ⟨f, hf, by rw [hname]; rfl⟩
    obtain ⟨⟨n, k⟩, hn⟩ := Option.isSome_iff_exists.1 hsome
    -- A form that comes before this one could only be the same form.
    obtain ⟨g, hg, rfl, hname'⟩ := hfound hn
    obtain rfl := eq_of_isWritten (hgs f hf) (hgs g hg) h ((name?_eq_some_iff (hgs g hg)).1 hname')
    rw [hn, Option.some.inj (hname.symm.trans hname')]

theorem declared?_eq (line : List Char) : declared? line = declaredIn? forms line := by
  have hnone (h : ∀ c, (Text.trimStart line).head? = some c → c = '#') : declaredIn? forms line = none := by
    rw [Option.eq_none_iff_forall_ne_some]
    rintro ⟨name, kind⟩ hdeclared
    obtain ⟨f, hf, _, hwritten⟩ := (declaredIn?_eq_some_iff fun _ hg => hg).1 hdeclared
    obtain ⟨front, cs, hfront, _, hcs, htrim⟩ := exists_of_isWritten hf hwritten
    obtain ⟨c, hc, _, hne⟩ := head?_front_append (isKeyword_of_mem_forms f hf) hcs hfront
    exact hne (h c (htrim ▸ hc))
  unfold declared?
  split
  · rename_i htrim
    exact (hnone (by simp [htrim])).symm
  · rename_i htrim
    exact (hnone (by simp [htrim])).symm
  · rfl

theorem declared?_eq_some_iff : declared? line = some (name, kind) ↔ Declares line name kind := by
  rw [declared?_eq, declaredIn?_eq_some_iff fun _ hg => hg, declares_iff]

theorem declaredIn?_of_perm (h : gs.Perm forms) (line : List Char) : declaredIn? gs line = declared? line := by
  ext ⟨name, kind⟩
  rw [declared?_eq, declaredIn?_eq_some_iff fun _ hg => hg, declaredIn?_eq_some_iff fun g hg => h.mem_iff.1 hg]
  simp only [h.mem_iff]

/-! ## Scripts -/

theorem mem_declarations_iff {text : String} {d : Declaration} : d ∈ declarations text ↔
    1 ≤ d.line ∧ ∃ line, (Text.lines text.toList)[d.line - 1]? = some line ∧
      declared? line = some (d.name.toList, d.kind) := by
  rw [declarations, Declaration.ofLinesFrom_eq_filterMap, List.mem_filterMap]
  constructor
  · rintro ⟨⟨line, n⟩, hline, hd⟩
    obtain ⟨⟨name, kind⟩, hdeclared, rfl⟩ := Option.map_eq_some_iff.1 hd
    obtain ⟨hpos, hget⟩ := List.mk_mem_zipIdx_iff_le_and_getElem?_sub.1 hline
    exact ⟨hpos, line, hget, by rw [hdeclared, String.toList_ofList]⟩
  · rintro ⟨hpos, line, hget, hdeclared⟩
    refine ⟨(line, d.line), List.mk_mem_zipIdx_iff_le_and_getElem?_sub.2 ⟨hpos, hget⟩, ?_⟩
    rw [hdeclared, Option.map_some, String.ofList_toList]

/-- A line is written in at most one of the forms, so that their order does not matter, and what it declares is what the
grammar says. The declarations of a script are those of its lines, at most one for each and in the order of the
lines. -/
theorem declared_by_grammar :
    (∀ line, (∀ f ∈ forms, ∀ g ∈ forms, (f.name? line).isSome → (g.name? line).isSome → f = g) ∧
      (∀ gs, gs.Perm forms → declaredIn? gs line = declared? line) ∧
      ∀ name kind, declared? line = some (name, kind) ↔ Declares line name kind) ∧
    ∀ text, ((declarations text).Pairwise fun d e => d.line < e.line) ∧
      ∀ d, d ∈ declarations text ↔ 1 ≤ d.line ∧ ∃ line, (Text.lines text.toList)[d.line - 1]? = some line ∧
        declared? line = some (d.name.toList, d.kind) := by
  refine ⟨fun line => ⟨?_, fun gs h => declaredIn?_of_perm h line, fun name kind => declared?_eq_some_iff⟩,
    fun text => ⟨Declaration.pairwise_line_ofLinesFrom 1 _, fun d => mem_declarations_iff⟩⟩
  intro f hf g hg hm hn
  obtain ⟨m, hm⟩ := Option.isSome_iff_exists.1 hm
  obtain ⟨n, hn⟩ := Option.isSome_iff_exists.1 hn
  exact eq_of_isWritten hf hg ((name?_eq_some_iff hf).1 hm) ((name?_eq_some_iff hg).1 hn)

/-- A variable behind an annotation with arguments and `static` is found in whichever order the forms are tried, and by
its own form only. -/
theorem declared_by_grammar_static :
    let line := "\t@export(1) static var speed := 2".toList
    let var : Form := ⟨"var", .variable, true⟩
    (var ∈ forms ∧ (var.name? line).isSome ∧ ∀ g ∈ forms, (g.name? line).isSome → var = g) ∧
      (forms.reverse.Perm forms ∧ declaredIn? forms.reverse line = some ("speed".toList, .variable)) ∧
      Declares line "speed".toList .variable := by
  intro line var
  have hgap : IsGap [' '] := ⟨List.cons_ne_nil _ _, List.all_eq_true.1 (by decide)⟩
  have hexport : IsWord "export".toList := ⟨by decide, List.all_eq_true.1 (by decide)⟩
  have hspeed : IsWord "speed".toList := ⟨by decide, List.all_eq_true.1 (by decide)⟩
  have hannotation : IsAnnotation "@export(1) ".toList :=
    ⟨_, "(1)".toList, _, hexport, Or.inr ⟨['1'], by decide, by decide⟩, hgap, by decide⟩
  have hfront : IsFront "@export(1) static ".toList :=
    ⟨["@export(1) ".toList], "static ".toList, List.forall_mem_singleton.2 hannotation,
      Or.inr ⟨_, hgap, by decide⟩, by decide⟩
  have hend : ∀ c, " := 2".toList.head? = some c → Text.isWord c = false := by
    rintro c ⟨⟩
    decide
  have hname : Introduces "var" "var speed := 2".toList "speed".toList :=
    ⟨_, " := 2".toList, hgap, hspeed, hend, by decide⟩
  have hwritten : var.IsWritten line "speed".toList :=
    ⟨"\t".toList, _, _, by decide, hfront, nofun, hname, by decide⟩
  have hvar : var ∈ forms := by decide
  have hsome : (var.name? line).isSome := by rw [(name?_eq_some_iff hvar).2 hwritten, Option.isSome_some]
  have hdeclares : Declares line "speed".toList .variable := declares_iff.2 ⟨var, hvar, rfl, hwritten⟩
  have hperm : forms.reverse.Perm forms := List.reverse_perm forms
  obtain ⟨honly, horder, hgrammar⟩ := declared_by_grammar.1 line
  exact ⟨⟨hvar, hsome, fun g hg => honly var hvar g hg hsome⟩,
    ⟨hperm, (horder _ hperm).trans ((hgrammar _ _).2 hdeclares)⟩, hdeclares⟩

end Script

end Conventions
