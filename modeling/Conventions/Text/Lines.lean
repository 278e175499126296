import Conventions.Text.CodeRange

/-!
# Lines

A text is cut into lines at the line boundaries of Unicode: line feed, carriage return (one boundary
together with a line feed after it), vertical tab, form feed, the separators 28 to 30, next line, and
the line and paragraph separators. A boundary at the very end opens no further line.
-/

namespace Conventions.Text

/-- Code points of the line boundaries. -/
def lineEndRanges : List (Nat × Nat) := [(10, 13), (28, 30), (133, 133), (8232, 8233)]

/-- Whether a character ends a line. -/
def isLineEnd (c : Char) : Bool := inRanges lineEndRanges c.toNat

/-- Puts a character in front of the first line. -/
def consLine (c : Char) : List (List Char) → List (List Char)
  | [] => [[c]]
  | l :: ls => (c :: l) :: ls

/-- The lines of a text, without the characters that end them. -/
def lines : List Char → List (List Char)
  | [] => []
  | '\r' :: '\n' :: cs => [] :: lines cs
  | c :: cs => if isLineEnd c then [] :: lines cs else consLine c (lines cs)

/-- Reads every carriage return, alone or with a line feed after it, as a line feed. -/
def unifyNewlines : List Char → List Char
  | [] => []
  | '\r' :: '\n' :: cs => '\n' :: unifyNewlines cs
  | '\r' :: cs => '\n' :: unifyNewlines cs
  | c :: cs => c :: unifyNewlines cs

end Conventions.Text
