import Conventions.Text.Printable

/-!
# Quoted texts

A text inside a list or a message about a value is shown between quotes: single quotes, unless the
text holds a single quote and no double quote. The quote itself and the backslash are escaped,
tab, line feed and carriage return have short forms, and any other character that is not printable is
given by its code point in two, four or eight hexadecimal digits.
-/

namespace Conventions.Text

/-- The hexadecimal digits of a number, filled up with zeros to a width. -/
def hex (width n : Nat) : List Char :=
  let digits := Nat.toDigits 16 n
  List.replicate (width - digits.length) '0' ++ digits

/-- The quote that encloses a text. -/
def quoteMark (cs : List Char) : Char :=
  if cs.contains '\'' && !cs.contains '"' then '"' else '\''

/-- A character as it stands between the quotes `q`. -/
def escapeChar (q c : Char) : List Char :=
  if c = q ∨ c = '\\' then ['\\', c]
  else if c = '\t' then ['\\', 't']
  else if c = '\n' then ['\\', 'n']
  else if c = '\r' then ['\\', 'r']
  else if isPrintable c then [c]
  else if c.toNat < 0x100 then '\\' :: 'x' :: hex 2 c.toNat
  else if c.toNat < 0x10000 then '\\' :: 'u' :: hex 4 c.toNat
  else '\\' :: 'U' :: hex 8 c.toNat

/-- A text between quotes. -/
def quote (cs : List Char) : List Char :=
  let q := quoteMark cs
  q :: (cs.flatMap (escapeChar q) ++ [q])

/-- A string between quotes. -/
def quoted (s : String) : String := String.ofList (quote s.toList)

/-- A list of strings, each between quotes, in brackets. -/
def quotedList (ss : List String) : String := "[" ++ ", ".intercalate (ss.map quoted) ++ "]"

end Conventions.Text
