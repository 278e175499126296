import Conventions.Matcher
import Conventions.Proofs.Header

/-!
# The parts of a heading that the checks look at

Three checks look at what stands in front of the colon, and each of them reads it on its own: one takes what stands in
front of the first parenthesis as the type, one takes what stands between the first two parentheses as the scope, and
one reads the whole as a heading. Where there is a heading they look at the same type and the same scope, and what each
of them reports is a judgement on its part of the heading.
-/

namespace Conventions.Commit

namespace Heading

/-- The judgement on the type of a heading. -/
def judgeType (p : Heading) (types : List Value) : Except MatchFailure (Option Mismatch) :=
  let type := String.ofList p.type
  if types.any (Value.isText type) then .ok none
  else (Value.texts types).map fun ts =>
    some ⟨type, ", ".intercalate ts, some (.between 0 p.type.length), s!"unknown commit type '{type}'"⟩

/-- The judgement on the scope of a heading; a heading without one has nothing to judge. -/
def judgeScope (p : Heading) : Option Mismatch :=
  p.scope.bind fun scope =>
    if Text.allBlank scope then
      some ⟨String.ofList p.text, "a non-empty scope inside '( )'",
        some (.between p.type.length (p.type.length + scope.length + 2)), "empty scope"⟩
    else none

/-- The judgement on the mark of a heading, which is its last character. -/
def judgeMark (p : Heading) (allowBreaking : Bool) : Option Mismatch :=
  if p.breaking && !allowBreaking then
    some ⟨String.ofList p.text, headingPattern, some (.between (p.text.length - 1) p.text.length),
      "breaking-change marker '!' is not allowed"⟩
  else none

end Heading

variable {p : Heading} {left : List Char} {right : Option (List Char)}

/-- In a well-formed heading the parentheses are those of the scope. -/
theorem scopeBounds?_text (hwf : p.IsWellFormed) :
    scopeBounds? p.text = p.scope.map fun scope => (p.type.length, p.type.length + (scope.length + 1)) := by
  cases hs : p.scope with
  | none =>
      have hnone : scopePart? p.text = none := (scopePart?_text hwf).trans hs
      exact Option.map_eq_none_iff.1 hnone
  | some scope =>
      have hclose : ')' ∉ '(' :: scope := by
        refine List.not_mem_cons_of_ne_of_not_mem (by decide) fun hm => ?_
        exact absurd (hwf.scope_chars scope hs ')' hm) (by decide)
      rw [Heading.text_of_scope hs, scopeBounds?_of_parens (hwf.not_mem_type (by decide)) hclose]
      rfl

theorem typeMismatch_text (hwf : p.IsWellFormed) (types : List Value) :
    typeMismatch ⟨p.text, right⟩ types = p.judgeType types := by
  rw [typeMismatch, Heading.typeToken_text hwf]
  rfl

theorem scopeMismatch_text (hwf : p.IsWellFormed) : scopeMismatch ⟨p.text, right⟩ = p.judgeScope := by
  rw [scopeMismatch, scopeBounds?_text hwf, Heading.judgeScope]
  cases hs : p.scope with
  | none => rfl
  | some scope =>
      have hpart : (p.text.take (p.type.length + (scope.length + 1))).drop (p.type.length + 1) = scope := by
        rw [Heading.text_of_scope hs]
        exact drop_take_parens p.type scope _
      simp only [Option.map_some, Option.bind_some, hpart]
      rfl

theorem headingMismatch_text (hwf : p.IsWellFormed) (allowBreaking : Bool) :
    headingMismatch ⟨p.text, right⟩ allowBreaking = p.judgeMark allowBreaking := by
  have hparse : Heading.parse p.text = some p := Heading.parse_eq_some_iff.2 ⟨hwf, rfl⟩
  simp only [headingMismatch, hparse]
  rfl

/-- Where what stands in front of the colon is a heading, the check of the type takes the type of the heading, and what
the check of the scope takes is there exactly if the heading has a scope, and then it is that scope. So in every message
with such a heading each of the three checks gives the judgement on its part of this heading. -/
theorem judges_of_parse (h : Heading.parse left = some p) :
    (∀ right, Header.typeToken ⟨left, right⟩ = p.type) ∧ scopePart? left = p.scope ∧
      ∀ m ps right, separated? m ps = some ⟨left, right⟩ →
        Matcher.commitType.run (.commit m) ps = (ps.listOr "types" defaultTypes).items >>= p.judgeType ∧
          Matcher.commitScope.run (.commit m) ps = .ok p.judgeScope ∧
          Matcher.commitHeader.run (.commit m) ps = .ok (p.judgeMark (ps.isOn "allow_breaking")) := by
  obtain ⟨hwf, rfl⟩ := Heading.parse_eq_some_iff.1 h
  refine ⟨Heading.typeToken_text hwf, scopePart?_text hwf, fun m ps right hm => ⟨?type, ?scope, ?mark⟩⟩
  case type =>
    show checkType m ps = _
    simp only [checkType, hm, funext (typeMismatch_text hwf)]
  case scope =>
    show Except.ok (checkScope m ps) = _
    rw [checkScope, hm, Option.bind_some, scopeMismatch_text hwf]
  case mark =>
    show Except.ok (checkHeading m ps) = _
    rw [checkHeading, hm, Option.bind_some, headingMismatch_text hwf]

/-- An unknown type, a blank scope and a mark: the check of the type reports the first, the check of the scope reports
the second, and the check of the heading finds nothing wrong with the third. -/
theorem judges_of_parse_blankScope :
    Heading.parse "perf( )!".toList = some ⟨"perf".toList, some " ".toList, true⟩ ∧
      separated? "perf( )!: cache" [] = some ⟨"perf( )!".toList, some " cache".toList⟩ ∧
      Header.typeToken ⟨"perf( )!".toList, some " cache".toList⟩ = "perf".toList ∧
      scopePart? "perf( )!".toList = some " ".toList ∧
      Matcher.commitType.run (.commit "perf( )!: cache") [] =
        .ok (some ⟨"perf", "feat, fix, docs, style, refactor, chore", some (.between 0 4), "unknown commit type 'perf'"⟩) ∧
      Matcher.commitScope.run (.commit "perf( )!: cache") [] =
        .ok (some ⟨"perf( )!", "a non-empty scope inside '( )'", some (.between 4 7), "empty scope"⟩) ∧
      Matcher.commitHeader.run (.commit "perf( )!: cache") [] = .ok none := by
  have hparse : Heading.parse "perf( )!".toList = some ⟨"perf".toList, some " ".toList, true⟩ := by decide
  have hseparated : separated? "perf( )!: cache" [] = some ⟨"perf( )!".toList, some " cache".toList⟩ := by decide
  obtain ⟨htoken, hpart, hjudges⟩ := judges_of_parse hparse
  obtain ⟨htype, hscope, hmark⟩ := hjudges _ _ _ hseparated
  exact ⟨hparse, hseparated, htoken _, hpart, htype.trans rfl, hscope.trans rfl, hmark.trans rfl⟩

end Conventions.Commit
