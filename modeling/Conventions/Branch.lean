import Conventions.Matcher.Failure
import Conventions.Diagnostic
import Conventions.Text.Uppercase

/-!
# Branch names

A branch name is an issue number, a hyphen and a title in kebab case: words of lower-case letters and
digits with single hyphens between them. The first offending character of a title is reported with
its offset. Some names, such as that of the main branch, are exempt.
-/

namespace Conventions.Branch

/-- The branches that are exempt unless a rule says otherwise. -/
def defaultExempt : List String := ["main", "master", "develop"]

/-- The form of a branch name as messages show it. -/
def pattern : String := "<issue-number>-<kebab-case-title>"

/-- What is wrong with a title. -/
inductive TitleFault where
  | empty
  | uppercase (c : Char)
  | underscore
  | leadingHyphen
  | consecutiveHyphens
  | trailingHyphen
  | invalid (c : Char)
deriving DecidableEq, Repr

/-- The message about a title. -/
def TitleFault.message : TitleFault → String
  | .empty => "title is empty"
  | .uppercase c => s!"uppercase letter '{c}'"
  | .underscore => "underscore"
  | .leadingHyphen => "leading hyphen"
  | .consecutiveHyphens => "consecutive hyphens"
  | .trailingHyphen => "trailing hyphen"
  | .invalid c => s!"invalid character '{c}'"

/-- Whether a character belongs to a word of a title. -/
def isTitleChar (c : Char) : Bool := c.isLower || c.isDigit

/-- What is wrong with a character of a title, given the one before it and whether it is the last. -/
def charFault? (previous : Option Char) (c : Char) (isLast : Bool) : Option TitleFault :=
  if Text.isUpper c then some (.uppercase c)
  else if c = '_' then some .underscore
  else if c = '-' then
    if previous = none then some .leadingHyphen
    else if previous = some '-' then some .consecutiveHyphens
    else if isLast then some .trailingHyphen
    else none
  else if isTitleChar c then none
  else some (.invalid c)

/-- The first fault in the rest of a title, with its offset in the rest. -/
def faultFrom (previous : Option Char) : List Char → Option (Nat × TitleFault)
  | [] => none
  | c :: cs =>
    match charFault? previous c cs.isEmpty with
    | some f => some (0, f)
    | none => (faultFrom (some c) cs).map fun r => (r.1 + 1, r.2)

/-- The first fault of a title, with its offset. -/
def titleFault? (title : List Char) : Option (Nat × TitleFault) :=
  if title.isEmpty then some (0, .empty) else faultFrom none title

/-- The digits at the start of a name. -/
def leadingDigits (name : List Char) : List Char := name.takeWhile Char.isDigit

/-- Whether a branch is exempt. -/
def isExempt (name : String) (ps : Params) : Except MatchFailure Bool :=
  (ps.listOr "exempt" defaultExempt).holds name

/-- The span of one character, or the empty one at the end of a text of length `size`. -/
def charSpan (at_ size : Nat) : Span := .between at_ (min (at_ + 1) size)

/-- Reports a name that does not start with digits. -/
def issueNumberMismatch (name : String) : Option Mismatch :=
  let cs := name.toList
  if (leadingDigits cs).isEmpty then
    let head := (Text.before '-' cs).length
    some ⟨name, pattern, some (.between 0 (if head = 0 then cs.length else head)),
      "no leading issue number"⟩
  else none

/-- Reports a name whose part after the digits and the hyphen is not in kebab case. -/
def titleMismatch (name : String) : Option Mismatch :=
  let cs := name.toList
  let digits := (leadingDigits cs).length
  if digits ≠ 0 ∧ (cs.drop digits).head? ≠ some '-' then
    some ⟨name, pattern, some (charSpan digits cs.length),
      "issue number must be followed by '-' and a title"⟩
  else
    let offset := if digits = 0 then 0 else digits + 1
    (titleFault? (cs.drop offset)).map fun (i, f) =>
      ⟨name, pattern, some (charSpan (offset + i) cs.length), f.message⟩

/-- Checks that a branch name starts with an issue number. -/
def checkIssueNumber (name : String) (ps : Params) : Except MatchFailure (Option Mismatch) :=
  (isExempt name ps).map fun exempt => if exempt then none else issueNumberMismatch name

/-- Checks that the title of a branch name is in kebab case. -/
def checkTitle (name : String) (ps : Params) : Except MatchFailure (Option Mismatch) :=
  (isExempt name ps).map fun exempt => if exempt then none else titleMismatch name

end Conventions.Branch
