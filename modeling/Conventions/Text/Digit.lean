import Conventions.Text.CodeRange

/-!
# Digits

Every script has its own ten decimal digits, which stand next to each other from zero to nine. A number
may be written in any of them. Digits that stand above or below the line, in circles or in brackets are
digits too, but not of numbers.
-/

namespace Conventions.Text

/-- Code points of the zeros of all scripts. -/
def zeros : List Nat :=
  [48, 1632, 1776, 1984, 2406, 2534, 2662, 2790, 2918, 3046, 3174, 3302, 3430, 3558, 3664, 3792,
   3872, 4160, 4240, 6112, 6160, 6470, 6608, 6784, 6800, 6992, 7088, 7232, 7248, 42528, 43216,
   43264, 43472, 43504, 43600, 44016, 65296, 66720, 68912, 69734, 69872, 69942, 70096, 70384,
   70736, 70864, 71248, 71360, 71472, 71904, 72016, 72784, 73040, 73120, 92768, 92864, 93008,
   120782, 120792, 120802, 120812, 120822, 123200, 123632, 125264, 130032]

/-- The value of a decimal digit of any script. -/
def decimalDigit? (c : Char) : Option Nat :=
  (zeros.find? fun z => z ≤ c.toNat && c.toNat ≤ z + 9).map fun z => c.toNat - z

/-- Code points of the digits that are no decimal digits. -/
def otherDigitRanges : List (Nat × Nat) :=
  [(178, 179), (185, 185), (4969, 4977), (6618, 6618), (8304, 8304), (8308, 8313), (8320, 8329),
   (9312, 9320), (9332, 9340), (9352, 9360), (9450, 9450), (9461, 9469), (9471, 9471),
   (10102, 10110), (10112, 10120), (10122, 10130), (68160, 68163), (69216, 69224), (69714, 69722),
   (127232, 127242)]

/-- Whether a character is a digit. -/
def isDigit (c : Char) : Bool := (decimalDigit? c).isSome || inRanges otherDigitRanges c.toNat

/-- The number that a text of decimal digits stands for, with `n` in front of it. -/
def decimalFrom (n : Nat) : List Char → Option Nat
  | [] => some n
  | c :: cs => (decimalDigit? c).bind fun d => decimalFrom (10 * n + d) cs

/-- The number that a text of one or more decimal digits stands for. -/
def decimal? (cs : List Char) : Option Nat := if cs.isEmpty then none else decimalFrom 0 cs

end Conventions.Text
