import Conventions.Identifier

/-!
# Declarations

An identifier that a source file declares, with its kind and the number of its line.
-/

namespace Conventions

/-- An identifier that a source declares. -/
structure Declaration where
  name : String
  kind : IdentifierKind
  line : Nat
deriving DecidableEq, Repr

namespace Declaration

/-- The declarations of lines, the first of which has number `n`; a line gives at most one. -/
def ofLinesFrom (find? : List Char → Option (List Char × IdentifierKind)) (n : Nat) :
    List (List Char) → List Declaration
  | [] => []
  | l :: ls =>
    match find? l with
    | none => ofLinesFrom find? (n + 1) ls
    | some (name, kind) => ⟨String.ofList name, kind, n⟩ :: ofLinesFrom find? (n + 1) ls

end Declaration

end Conventions
