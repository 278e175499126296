import Conventions.Identifier
import Conventions.Diagnostic
import Conventions.Text.Digit

/-!
# Casing

Names of a kind share a casing class: a set of characters, some of which may not come first. A name that
is not in its class is reported at the first character that does not fit.
-/

namespace Conventions

/-- A casing class. -/
inductive Casing where
  | lowerSnake
  | upperSnake
  | pascal
deriving DecidableEq, Repr

namespace Casing

/-- Every casing class. -/
def all : List Casing := [.lowerSnake, .upperSnake, .pascal]

/-- The name of a casing class. -/
def name : Casing → String
  | .lowerSnake => "lower_snake_case"
  | .upperSnake => "UPPER_SNAKE_CASE"
  | .pascal => "PascalCase"

/-- The casing class of a name. -/
def ofName? (n : String) : Option Casing := all.find? fun c => c.name == n

/-- Whether a character may stand in a name of the class. -/
def isPart : Casing → Char → Bool
  | .lowerSnake, c => c.isLower || c.isDigit || c = '_'
  | .upperSnake, c => c.isUpper || c.isDigit || c = '_'
  | .pascal, c => c.isAlpha || c.isDigit

/-- Whether no name of the class starts with a character: in the two snake cases a digit of any script, in
Pascal case everything but a capital letter. -/
def isBarred : Casing → Char → Bool
  | .lowerSnake, c | .upperSnake, c => Text.isDigit c
  | .pascal, c => !c.isUpper

/-- The offset of the first character that does not fit the class; an empty name does not fit at 0. -/
def violation? (casing : Casing) : List Char → Option Nat
  | [] => some 0
  | c :: cs => if casing.isBarred c then some 0 else (c :: cs).findIdx? fun x => !casing.isPart x

/-- The casing class for a kind of identifier. -/
def expected : IdentifierKind → Casing
  | .variable | .function | .signal => .lowerSnake
  | .constant => .upperSnake
  | .className | .nodeName => .pascal

/-- Reports an identifier that is not in the casing class of its kind. -/
def check (identifier : String) (kind : IdentifierKind) : Option Mismatch :=
  let cs := identifier.toList
  let casing := expected kind
  (casing.violation? cs).map fun i =>
    ⟨identifier, casing.name, some (.between i (min (i + 1) cs.length)),
      s!"{kind.word} names use {casing.name}"⟩

end Casing

/-- A text that names no casing class. -/
structure UnknownCasing where
  name : String
deriving DecidableEq, Repr

/-- The message about a text that names no casing class. -/
def UnknownCasing.message (e : UnknownCasing) : String := s!"unknown casing class '{e.name}'"

/-- The first offset at which a name violates a named casing class; the empty name violates any. -/
def violationOf (casing : String) (name : String) : Except UnknownCasing (Option Nat) :=
  match Casing.ofName? casing with
  | some c => .ok (c.violation? name.toList)
  | none => if name.isEmpty then .ok (some 0) else .error ⟨casing⟩

end Conventions
