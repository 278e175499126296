import Conventions.Commit.Header
import Conventions.Matcher.Failure
import Conventions.Diagnostic

/-!
# Checks of commit messages

Five checks look at the header of a commit message: the colon and the space after it, the type, the
scope, the form of the left part, and the description. Without a colon only the first one reports.
Messages about merges and reverts are left alone unless a rule says otherwise.
-/

namespace Conventions.Commit

/-- The types that are allowed unless a rule says otherwise. -/
def defaultTypes : List String := ["feat", "fix", "docs", "style", "refactor", "chore"]

/-- The form of a header as messages show it. -/
def pattern : String := "<type>[(scope)]: <description>"

/-- The form of the left part of a header as messages show it. -/
def headingPattern : String := "type[(scope)]"

/-- Whether a message is about a merge or a revert. -/
def isMerge (message : String) : Bool :=
  "Merge ".toList.isPrefixOf message.toList || "Revert \"".toList.isPrefixOf message.toList

/-- The header to check, unless the message is left alone. -/
def header? (message : String) (ps : Params) : Option Header :=
  if ps.isOn "ignore_merges" && isMerge message then none else some (Header.parse message)

/-- Reports a missing colon, or a missing space after it. -/
def separatorMismatch (h : Header) (requireSpace : Bool) : Option Mismatch :=
  let text := String.ofList h.text
  match h.right with
  | none => some ⟨text, pattern, some (.between 0 h.text.length), "missing ':' separator"⟩
  | some r =>
    if requireSpace && !Text.allBlank r && r.head? ≠ some ' ' then
      some ⟨text, pattern, some (.between h.left.length (h.left.length + 1)),
        "expected ': ' (colon followed by a space)"⟩
    else none

/-- Reports a type that is not among the allowed ones. -/
def typeMismatch (h : Header) (types : List Value) : Except MatchFailure (Option Mismatch) :=
  let token := String.ofList h.typeToken
  if types.any (Value.isText token) then .ok none
  else (Value.texts types).map fun ts =>
    some ⟨token, ", ".intercalate ts, some (.between 0 h.typeToken.length),
      s!"unknown commit type '{token}'"⟩

/-- The offsets of the first `(` and of the first `)` after it. -/
def scopeBounds? (left : List Char) : Option (Nat × Nat) :=
  let rest := left.dropWhile (· ≠ '(')
  if rest.isEmpty then none
  else
    let start := (left.takeWhile (· ≠ '(')).length
    if ')' ∈ rest then some (start, start + (rest.takeWhile (· ≠ ')')).length) else none

/-- Reports parentheses with nothing but blanks between them. -/
def scopeMismatch (h : Header) : Option Mismatch :=
  (scopeBounds? h.left).bind fun (start, stop) =>
    if Text.allBlank ((h.left.take stop).drop (start + 1)) then
      some ⟨String.ofList h.left, "a non-empty scope inside '( )'", some (.between start (stop + 1)),
        "empty scope"⟩
    else none

/-- Reports a left part that is not well formed, or a `!` that is not allowed. -/
def headingMismatch (h : Header) (allowBreaking : Bool) : Option Mismatch :=
  let left := String.ofList h.left
  match Heading.parse h.left with
  | none => some ⟨left, headingPattern, some (.between 0 h.left.length), "malformed type/scope prefix"⟩
  | some p =>
    if p.breaking && !allowBreaking then
      some ⟨left, headingPattern, some (.between (h.left.length - 1) h.left.length),
        "breaking-change marker '!' is not allowed"⟩
    else none

/-- Reports a description of blanks only. -/
def descriptionMismatch (h : Header) : Option Mismatch :=
  if Text.allBlank h.description then
    some ⟨String.ofList h.text, "a description after ': '",
      some (.between h.left.length h.text.length), "missing description"⟩
  else none

/-- The header with a colon to check, unless the message is left alone. -/
def separated? (message : String) (ps : Params) : Option Header :=
  (header? message ps).filter fun h => h.right.isSome

/-- Checks the colon of a header and the space after it. -/
def checkSeparator (message : String) (ps : Params) : Option Mismatch :=
  (header? message ps).bind fun h => separatorMismatch h (ps.isOn "require_space")

/-- Checks the type of a header. -/
def checkType (message : String) (ps : Params) : Except MatchFailure (Option Mismatch) :=
  match separated? message ps with
  | none => .ok none
  | some h => (ps.listOr "types" defaultTypes).items >>= typeMismatch h

/-- Checks that a scope is not empty. -/
def checkScope (message : String) (ps : Params) : Option Mismatch :=
  (separated? message ps).bind scopeMismatch

/-- Checks the form of the left part of a header. -/
def checkHeading (message : String) (ps : Params) : Option Mismatch :=
  (separated? message ps).bind fun h => headingMismatch h (ps.isOn "allow_breaking")

/-- Checks that a header has a description. -/
def checkDescription (message : String) (ps : Params) : Option Mismatch :=
  (separated? message ps).bind descriptionMismatch

end Conventions.Commit
