import Conventions.Identifier
import Conventions.Matcher.Failure
import Conventions.Diagnostic
import Conventions.Text.Uppercase

/-!
# Node suffixes

The name of a node ends with a suffix of two to four upper-case letters that tells its type. The
longest suffix of the table that leaves something in front of it counts.
-/

namespace Conventions.NodeSuffix

/-- The lengths of suffixes, longest first. -/
def lengths : List Nat := [4, 3, 2]

/-- Splits a name at the first of the given lengths at which its end is in the table. -/
def splitAt (table : Param) (name : List Char) :
    List Nat → Except MatchFailure (Option (List Char × List Char))
  | [] => .ok none
  | n :: ns =>
    if name.length ≤ n then splitAt table name ns
    else
      let stem := name.take (name.length - n)
      let suffix := name.drop (name.length - n)
      match table.holds (String.ofList suffix) with
      | .error e => .error e
      | .ok true => .ok (some (stem, suffix))
      | .ok false => splitAt table name ns

/-- Splits a name into a stem and the longest suffix of the table. -/
def split (table : Param) (name : List Char) : Except MatchFailure (Option (List Char × List Char)) :=
  splitAt table name lengths

/-- The upper-case letters at the end of a name. -/
def capitals (name : List Char) : List Char := (name.reverse.takeWhile Text.isUpper).reverse

/-- Reports a name without a suffix of the table, pointing at the capitals at its end. -/
def mismatch (name : List Char) (suffixes : List String) : Mismatch :=
  let tail := capitals name
  ⟨String.ofList name, "PascalCase name ending in one of " ++ ", ".intercalate suffixes,
    some (.between (name.length - tail.length) name.length),
    if tail.isEmpty then "no type suffix"
    else s!"suffix '{String.ofList tail}' is not in the suffix table"⟩

/-- Checks that the name of a node ends with a suffix of the table. -/
def check (identifier : String) (kind : IdentifierKind) (ps : Params) :
    Except MatchFailure (Option Mismatch) :=
  if kind ≠ .nodeName then .ok none
  else do
    let table := ps.suffixTable
    match ← split table identifier.toList with
    | some _ => return none
    | none => return some (mismatch identifier.toList (← Value.sortedTexts (← table.items)))

end Conventions.NodeSuffix
