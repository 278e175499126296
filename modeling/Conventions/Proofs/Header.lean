import Mathlib.Data.List.TakeWhile
import Conventions.Commit.Check
import Conventions.Proofs.Text

/-!
# The grammar of commit headers

Reading the left part of a header is the inverse of writing it: what is read is a well-formed heading, and
the text of a well-formed heading is read back. The checks of the type and of the scope look for their part
in the text on their own; in a well-formed heading they find the type and the scope.
-/

namespace Conventions.Commit

namespace Heading

/-- The text of a scope. -/
def scopeText : Option (List Char) → List Char
  | none => []
  | some cs => '(' :: cs ++ [')']

/-- The text of the mark of a breaking change. -/
def markText (breaking : Bool) : List Char := if breaking then ['!'] else []

/-- The text of a heading. -/
def text (h : Heading) : List Char := h.type ++ (scopeText h.scope ++ markText h.breaking)

/-- The characters of a heading stand where they may stand, and there is a type. -/
structure IsWellFormed (h : Heading) : Prop where
  type_ne_nil : h.type ≠ []
  type_chars : ∀ c ∈ h.type, isTypeChar c = true
  scope_chars : ∀ cs, h.scope = some cs → ∀ c ∈ cs, isScopeChar c = true

/-! ## Reading and writing -/

theorem scopeText_append (cs rest : List Char) :
    scopeText (some cs) ++ rest = '(' :: (cs ++ ')' :: rest) := by
  simp [scopeText]

theorem readMark_eq_some_iff {type : List Char} {scope : Option (List Char)} {cs : List Char}
    {h : Heading} :
    readMark type scope cs = some h ↔ ∃ b, cs = markText b ∧ h = ⟨type, scope, b⟩ := by
  constructor
  · intro hread
    unfold readMark at hread
    split at hread
    · cases hread
      exact ⟨false, rfl, rfl⟩
    · cases hread
      exact ⟨true, rfl, rfl⟩
    · cases hread
  · rintro ⟨b, rfl, rfl⟩
    cases b <;> rfl

theorem readScope_of_scope (type : List Char) {cs : List Char} (h : ∀ c ∈ cs, isScopeChar c = true)
    (rest : List Char) :
    readScope type ('(' :: (cs ++ ')' :: rest)) = readMark type (some cs) rest := by
  have hhead : ∀ c, (')' :: rest).head? = some c → isScopeChar c = false := by
    intro c hc
    cases hc
    decide
  simp only [readScope, Text.takeWhile_append_of_head h hhead, Text.dropWhile_append_of_head h hhead]

theorem readScope_markText (type : List Char) (b : Bool) :
    readScope type (markText b) = some ⟨type, none, b⟩ := by
  cases b <;> rfl

theorem readScope_eq_some_iff {type cs : List Char} {h : Heading} :
    readScope type cs = some h ↔ ∃ scope b,
      (∀ ds, scope = some ds → ∀ c ∈ ds, isScopeChar c = true) ∧
        cs = scopeText scope ++ markText b ∧ h = ⟨type, scope, b⟩ := by
  constructor
  · intro hread
    unfold readScope at hread
    split at hread
    · rename_i ds
      split at hread
      · rename_i rest hrest
        obtain ⟨b, rfl, rfl⟩ := readMark_eq_some_iff.1 hread
        refine ⟨some (ds.takeWhile isScopeChar), b, ?_, ?_, rfl⟩
        · intro es hes c hc
          cases hes
          exact List.mem_takeWhile_imp hc
        · have hds : ds.takeWhile isScopeChar ++ ')' :: markText b = ds := by
            rw [← hrest, List.takeWhile_append_dropWhile]
          rw [scopeText_append, hds]
      · cases hread
    · obtain ⟨b, rfl, rfl⟩ := readMark_eq_some_iff.1 hread
      exact ⟨none, b, nofun, rfl, rfl⟩
  · rintro ⟨scope, b, hscope, rfl, rfl⟩
    cases scope with
    | none => exact readScope_markText type b
    | some ds =>
        rw [scopeText_append, readScope_of_scope type (hscope ds rfl)]
        exact readMark_eq_some_iff.2 ⟨b, rfl, rfl⟩

/-- What follows the type is no part of the type. -/
theorem isTypeChar_of_head (h : Heading) :
    ∀ c, (scopeText h.scope ++ markText h.breaking).head? = some c → isTypeChar c = false := by
  obtain ⟨type, scope, b⟩ := h
  intro c hc
  cases scope <;> cases b <;> cases hc <;> decide

/-- Reading gives the well-formed headings of a text. -/
theorem parse_eq_some_iff {left : List Char} {h : Heading} :
    parse left = some h ↔ h.IsWellFormed ∧ left = h.text := by
  simp only [parse]
  constructor
  · intro hread
    split at hread
    · cases hread
    · rename_i htype
      obtain ⟨scope, b, hscope, hrest, rfl⟩ := readScope_eq_some_iff.1 hread
      have htext : left = left.takeWhile isTypeChar ++ (scopeText scope ++ markText b) := by
        rw [← hrest, List.takeWhile_append_dropWhile]
      refine ⟨⟨?_, ?_, hscope⟩, htext⟩
      · intro hnil
        exact htype (List.isEmpty_iff.2 hnil)
      · intro c hc
        exact List.mem_takeWhile_imp hc
  · rintro ⟨hwf, rfl⟩
    have htake : h.text.takeWhile isTypeChar = h.type :=
      Text.takeWhile_append_of_head hwf.type_chars h.isTypeChar_of_head
    have hdrop : h.text.dropWhile isTypeChar = scopeText h.scope ++ markText h.breaking :=
      Text.dropWhile_append_of_head hwf.type_chars h.isTypeChar_of_head
    rw [htake, hdrop, if_neg (by simpa using hwf.type_ne_nil)]
    exact readScope_eq_some_iff.2 ⟨h.scope, h.breaking, hwf.scope_chars, rfl, rfl⟩

/-! ## The type and the scope in the text -/

theorem IsWellFormed.not_mem_type {h : Heading} (hwf : h.IsWellFormed) {c : Char}
    (hc : isTypeChar c = false) : c ∉ h.type := by
  intro hm
  rw [hwf.type_chars c hm] at hc
  cases hc

theorem text_of_scope {h : Heading} {cs : List Char} (hs : h.scope = some cs) :
    h.text = h.type ++ '(' :: (cs ++ ')' :: markText h.breaking) := by
  rw [text, hs, scopeText_append]

theorem text_of_none {h : Heading} (hs : h.scope = none) : h.text = h.type ++ markText h.breaking := by
  rw [text, hs, scopeText, List.nil_append]

theorem paren_not_mem_text {h : Heading} (hwf : h.IsWellFormed) (hs : h.scope = none) : '(' ∉ h.text := by
  have htype := hwf.not_mem_type (c := '(') (by decide)
  rw [text_of_none hs]
  cases h.breaking <;> simp [markText, htype]

/-- In a well-formed heading, the part before any parenthesis without a mark is the type. -/
theorem typeToken_text {h : Heading} (hwf : h.IsWellFormed) (right : Option (List Char)) :
    Header.typeToken ⟨h.text, right⟩ = h.type := by
  have hlast : h.type.getLast? ≠ some '!' := fun hl =>
    hwf.not_mem_type (by decide) (List.mem_of_getLast? hl)
  simp only [Header.typeToken]
  cases hs : h.scope with
  | some cs =>
      rw [text_of_scope hs, Text.before_append (hwf.not_mem_type (by decide)), if_neg hlast]
  | none =>
      rw [Text.before_of_not_mem (paren_not_mem_text hwf hs), text_of_none hs]
      cases h.breaking with
      | false => simp [markText, hlast]
      | true => simp [markText]

end Heading

/-- What stands between the parentheses that the check of the scope looks at. -/
def scopePart? (left : List Char) : Option (List Char) :=
  (scopeBounds? left).map fun b => (left.take b.2).drop (b.1 + 1)

theorem scopeBounds?_of_parens {type cs rest : List Char} (htype : '(' ∉ type)
    (hscope : ')' ∉ '(' :: cs) :
    scopeBounds? (type ++ '(' :: (cs ++ ')' :: rest)) = some (type.length, type.length + (cs.length + 1)) := by
  have hdrop : (type ++ '(' :: (cs ++ ')' :: rest)).dropWhile (· ≠ '(') = '(' :: (cs ++ ')' :: rest) :=
    Text.dropWhile_ne_append htype
  have hopen : (type ++ '(' :: (cs ++ ')' :: rest)).takeWhile (· ≠ '(') = type := Text.before_append htype
  have hclose : ('(' :: (cs ++ ')' :: rest)).takeWhile (· ≠ ')') = '(' :: cs := Text.before_append hscope
  simp only [scopeBounds?, hdrop, hopen, hclose]
  rw [if_neg (by simp), if_pos (by simp), List.length_cons]

theorem exists_parens_of_scopeBounds? {left : List Char} {start stop : Nat}
    (h : scopeBounds? left = some (start, stop)) : ∃ front scope back,
      left = front ++ '(' :: (scope ++ ')' :: back) ∧ start = front.length ∧
        stop = front.length + (scope.length + 1) := by
  by_cases hopen : '(' ∈ left
  · obtain ⟨front, tail, rfl, hfront⟩ := List.eq_append_cons_of_mem hopen
    by_cases hclose : ')' ∈ '(' :: tail
    · obtain ⟨scope, back, rfl, hscope⟩ :=
        List.eq_append_cons_of_mem ((List.mem_cons.1 hclose).resolve_left (by decide))
      rw [scopeBounds?_of_parens hfront (List.not_mem_cons_of_ne_of_not_mem (by decide) hscope)] at h
      cases h
      exact ⟨front, scope, back, rfl, rfl, rfl⟩
    · simp only [scopeBounds?, Text.dropWhile_ne_append hfront, if_neg hclose] at h
      split at h <;> cases h
  · have hdrop : left.dropWhile (· ≠ '(') = [] := List.dropWhile_eq_nil_iff.2 (Text.ne_of_not_mem hopen)
    simp only [scopeBounds?, hdrop] at h
    cases h

theorem drop_take_parens (front scope back : List Char) :
    ((front ++ '(' :: (scope ++ ')' :: back)).take (front.length + (scope.length + 1))).drop (front.length + 1) =
      scope := by
  have hlength : front.length + (scope.length + 1) - (front.length + 1) = scope.length := by omega
  have hdrop : (front ++ '(' :: (scope ++ ')' :: back)).drop (front.length + 1) = scope ++ ')' :: back := by
    simp [List.drop_append]
  rw [List.drop_take, hlength, hdrop, List.take_left]

/-- In a well-formed heading, what stands between the parentheses is the scope. -/
theorem scopePart?_text {h : Heading} (hwf : h.IsWellFormed) : scopePart? h.text = h.scope := by
  cases hs : h.scope with
  | none =>
      have hdrop : h.text.dropWhile (· ≠ '(') = [] :=
        List.dropWhile_eq_nil_iff.2 (Text.ne_of_not_mem (Heading.paren_not_mem_text hwf hs))
      simp only [scopePart?, scopeBounds?, hdrop]
      rfl
  | some cs =>
      have htype : '(' ∉ h.type := hwf.not_mem_type (by decide)
      have hscope : ')' ∉ '(' :: cs := by
        rw [List.mem_cons, not_or]
        refine ⟨by decide, ?_⟩
        intro hm
        exact absurd (hwf.scope_chars cs hs ')' hm) (by decide)
      rw [scopePart?, Heading.text_of_scope hs, scopeBounds?_of_parens htype hscope, Option.map_some, drop_take_parens]

/-! ## Header lines -/

namespace Header

theorem ofLine_append {left right : List Char} (h : ':' ∉ left) :
    ofLine (left ++ ':' :: right) = ⟨left, some right⟩ := by
  rw [ofLine, Text.before_append h, Text.after_append h, if_pos (by simp)]

theorem ofLine_of_not_mem {line : List Char} (h : ':' ∉ line) : ofLine line = ⟨line, none⟩ := by
  rw [ofLine, Text.before_of_not_mem h, if_neg h]

theorem exists_append_of_mem {line : List Char} (h : ':' ∈ line) :
    ∃ left right, ':' ∉ left ∧ line = left ++ ':' :: right :=
  ⟨Text.before ':' line, Text.after ':' line, Text.not_mem_before ':' line,
    (Text.before_append_after h).symm⟩

theorem typeToken_prefix (left : List Char) (right : Option (List Char)) : typeToken ⟨left, right⟩ <+: left := by
  have hbefore : Text.before '(' left <+: left := List.takeWhile_prefix _
  simp only [typeToken]
  split
  · exact (List.dropLast_prefix _).trans hbefore
  · exact hbefore

end Header

variable {message : String} {ps : Params} {h : Header}

theorem header?_eq_some (hm : header? message ps = some h) :
    h = Header.ofLine (headerLine message.toList) := by
  unfold header? at hm
  split at hm
  · cases hm
  · exact (Option.some.inj hm).symm

theorem separated?_eq_some (hm : separated? message ps = some h) :
    ∃ left right, h = ⟨left, some right⟩ ∧ ':' ∉ left ∧ headerLine message.toList = left ++ ':' :: right := by
  obtain ⟨hheader, hright⟩ := Option.filter_eq_some_iff.1 hm
  have hline := header?_eq_some hheader
  by_cases hcolon : ':' ∈ headerLine message.toList
  · obtain ⟨left, right, hleft, heq⟩ := Header.exists_append_of_mem hcolon
    rw [heq, Header.ofLine_append hleft] at hline
    exact ⟨left, right, hline, hleft, heq⟩
  · rw [hline, Header.ofLine_of_not_mem hcolon] at hright
    cases hright

end Conventions.Commit
