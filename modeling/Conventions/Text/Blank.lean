import Conventions.Text.CodeRange

/-!
# Blank characters and trimming

Blank characters are the white space of Unicode together with the four information separators
(code points 28 to 31). Trimming removes them from the ends of a text.
-/

namespace Conventions.Text

/-- Code points of the blank characters. -/
def blankRanges : List (Nat × Nat) :=
  [(9, 13), (28, 32), (133, 133), (160, 160), (5760, 5760), (8192, 8202), (8232, 8233),
   (8239, 8239), (8287, 8287), (12288, 12288)]

/-- Whether a character is blank. -/
def isBlank (c : Char) : Bool := inRanges blankRanges c.toNat

/-- Whether a text has no character other than blank ones. -/
def allBlank (cs : List Char) : Bool := cs.all isBlank

/-- Drops the longest end of a list whose elements all satisfy `p`. -/
def dropEndWhile {α : Type} (p : α → Bool) (xs : List α) : List α := (xs.reverse.dropWhile p).reverse

/-- Removes the blank characters at the start. -/
def trimStart (cs : List Char) : List Char := cs.dropWhile isBlank

/-- Removes the blank characters at the end. -/
def trimEnd (cs : List Char) : List Char := dropEndWhile isBlank cs

/-- Removes the blank characters at both ends. -/
def trim (cs : List Char) : List Char := trimEnd (trimStart cs)

/-- Removes the blank characters at both ends of a string. -/
def trimmed (s : String) : String := String.ofList (trim s.toList)

end Conventions.Text
