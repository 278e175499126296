import Conventions.Params

/-!
# Failures of checks

A check whose parameters have the wrong form cannot decide. The rule then reports the failure instead
of a mismatch.
-/

namespace Conventions

/-- Why a check could not be carried out. -/
inductive MatchFailure where
  | unknownMatcher (name : String)
  | noSchema
  | notContainer (kind : String)
  | notIterable (kind : String)
  | notText (index : Nat) (kind : String)
  | incomparable (left right : String)
deriving DecidableEq, Repr

namespace MatchFailure

/-- The message about a failed check. -/
def message : MatchFailure → String
  | .unknownMatcher name => Text.quoted name
  | .noSchema => "placement matchers require a 'schema' parameter of type PlacementSchema"
  | .notContainer kind => s!"argument of type '{kind}' is not iterable"
  | .notIterable kind => s!"'{kind}' object is not iterable"
  | .notText index kind => s!"sequence item {index}: expected str instance, {kind} found"
  | .incomparable left right =>
    s!"'<' not supported between instances of '{left}' and '{right}'"

end MatchFailure

namespace Value

/-- Whether a value holds a name. -/
def holds (name : String) (v : Value) : Except MatchFailure Bool :=
  match v.holds? name with
  | some b => .ok b
  | none => .error (.notContainer v.kindName)

/-- The items of a value. -/
def items (v : Value) : Except MatchFailure (List Value) :=
  match v.items? with
  | some vs => .ok vs
  | none => .error (.notIterable v.kindName)

/-- The texts of a list of texts, whose first element has a given index in a longer list. -/
def textsFrom (index : Nat) : List Value → Except MatchFailure (List String)
  | [] => .ok []
  | .scalar (.text s) :: vs => (textsFrom (index + 1) vs).map (s :: ·)
  | v :: _ => .error (.notText index v.kindName)

/-- The texts of a list of texts. -/
def texts (vs : List Value) : Except MatchFailure (List String) := textsFrom 0 vs

/-- How two values compare, if they do; lists compare with lists. -/
def compare? : Value → Value → Option Ordering
  | .scalar a, .scalar b => a.compare? b
  | .list a, .list b => some (compare a.length b.length)
  | _, _ => none

/-- The first value of a list that does not compare with the one before it. -/
def firstIncomparable : List Value → Option MatchFailure
  | v :: w :: vs =>
    match w.compare? v with
    | none => some (.incomparable w.kindName v.kindName)
    | some _ => firstIncomparable (w :: vs)
  | _ => none

/-- The texts of a list of texts in order. -/
def sortedTexts (vs : List Value) : Except MatchFailure (List String) :=
  match firstIncomparable vs with
  | some f => .error f
  | none => (texts (vs.mergeSort fun v w => v.compare? w ≠ some .gt)).map Text.sorted

theorem texts_map_text (ss : List String) : texts (ss.map text) = .ok ss := by
  have h : ∀ n, textsFrom n (ss.map text) = .ok ss := by
    induction ss with
    | nil => intro n; rfl
    | cons s ss ih => intro n; simp [textsFrom, text, ih (n + 1), Except.map]
  exact h 0

end Value

namespace Param

/-- The name of the type of a schema as messages show it. -/
def schemaName : String := "PlacementSchema"

/-- Whether a parameter holds a name; a schema does not tell. -/
def holds (name : String) : Param → Except MatchFailure Bool
  | .value v => v.holds name
  | .schema _ => .error (.notContainer schemaName)

/-- The items of a parameter; a schema has none. -/
def items : Param → Except MatchFailure (List Value)
  | .value v => v.items
  | .schema _ => .error (.notIterable schemaName)

end Param

end Conventions
