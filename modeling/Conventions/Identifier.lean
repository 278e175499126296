/-!
# Identifiers

The kinds of names that a script or a scene declares.
-/

namespace Conventions

/-- What an identifier names. -/
inductive IdentifierKind where
  | variable
  | function
  | constant
  | className
  | signal
  | nodeName
deriving DecidableEq, Repr, Inhabited

namespace IdentifierKind

/-- Every kind. -/
def all : List IdentifierKind := [.variable, .function, .constant, .className, .signal, .nodeName]

/-- The word for a kind. -/
def word : IdentifierKind → String
  | .variable => "variable"
  | .function => "function"
  | .constant => "constant"
  | .className => "class_name"
  | .signal => "signal"
  | .nodeName => "node_name"

/-- The kind of a word. -/
def ofWord? (w : String) : Option IdentifierKind := all.find? fun k => k.word == w

theorem ofWord?_word (k : IdentifierKind) : ofWord? k.word = some k := by cases k <;> decide

end IdentifierKind

end Conventions
