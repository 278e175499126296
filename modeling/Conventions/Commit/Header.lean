import Conventions.Text.Blank
import Conventions.Text.Split

/-!
# Commit headers

The header of a commit message is its first line. The first colon, if there is one, separates the
part on the left, a type with an optional scope in parentheses and an optional `!`, from the
description on the right.
-/

namespace Conventions.Commit

/-- The first line of a message, without carriage returns at its end. -/
def headerLine (message : List Char) : List Char :=
  Text.dropEndWhile (· = '\r') (Text.before '\n' message)

/-- A header: the part before the first colon, and the part after it if there is a colon. -/
structure Header where
  left : List Char
  right : Option (List Char)
deriving DecidableEq, Repr

namespace Header

/-- Reads a header line. -/
def ofLine (line : List Char) : Header :=
  ⟨Text.before ':' line, if ':' ∈ line then some (Text.after ':' line) else none⟩

/-- Reads the header of a message. -/
def parse (message : String) : Header := ofLine (headerLine message.toList)

/-- The whole line. -/
def text (h : Header) : List Char :=
  match h.right with
  | none => h.left
  | some r => h.left ++ ':' :: r

/-- The offset of the first colon. -/
def colon? (h : Header) : Option Nat := h.right.map fun _ => h.left.length

/-- The type: the part before any `(`, without a `!` at its end. -/
def typeToken (h : Header) : List Char :=
  let token := Text.before '(' h.left
  if token.getLast? = some '!' then token.dropLast else token

/-- The description: the right part without one space at its start. -/
def description (h : Header) : List Char :=
  match h.right with
  | none => []
  | some (' ' :: r) => r
  | some r => r

end Header

/-- The left part of a well-formed header. -/
structure Heading where
  type : List Char
  scope : Option (List Char)
  breaking : Bool
deriving DecidableEq, Repr

namespace Heading

/-- Whether a character may stand in a type. -/
def isTypeChar (c : Char) : Bool :=
  !(Text.isBlank c || c = '(' || c = ')' || c = '!' || c = ':')

/-- Whether a character may stand in a scope. -/
def isScopeChar (c : Char) : Bool := !(c = '(' || c = ')')

/-- Reads what follows the scope: nothing, or one `!`. -/
def readMark (type : List Char) (scope : Option (List Char)) : List Char → Option Heading
  | [] => some ⟨type, scope, false⟩
  | ['!'] => some ⟨type, scope, true⟩
  | _ => none

/-- Reads what follows the type. -/
def readScope (type : List Char) : List Char → Option Heading
  | '(' :: cs =>
    match cs.dropWhile isScopeChar with
    | ')' :: rest => readMark type (some (cs.takeWhile isScopeChar)) rest
    | _ => none
  | cs => readMark type none cs

/-- Reads the left part of a header: a type, an optional scope in parentheses, an optional `!`. -/
def parse (left : List Char) : Option Heading :=
  let type := left.takeWhile isTypeChar
  if type.isEmpty then none else readScope type (left.dropWhile isTypeChar)

end Heading

end Conventions.Commit
