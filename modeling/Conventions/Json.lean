import Conventions.Number.Decimal
import Conventions.Text.Quoted

/-!
# JSON text

Data as JSON text with one item a line, indented by two blanks a level. Characters that are not visible
ASCII are escaped, the ones beyond 16 bits as two escapes.
-/

namespace Conventions

/-- Data to be written as JSON. -/
inductive Json where
  | null
  | bool (b : Bool)
  | int (n : Int)
  | float (x : Binary64)
  | text (s : String)
  | list (items : List Json)
  | object (fields : List (String × Json))
deriving Repr, Inhabited

namespace Json

/-- The escape of a 16-bit unit. -/
def unitEscape (n : Nat) : List Char := '\\' :: 'u' :: Text.hex 4 n

/-- A character between double quotes. -/
def escapeChar (c : Char) : List Char :=
  if c = '"' || c = '\\' then ['\\', c]
  else if c = '\n' then ['\\', 'n']
  else if c = '\r' then ['\\', 'r']
  else if c = '\t' then ['\\', 't']
  else if c = '\x08' then ['\\', 'b']
  else if c = '\x0c' then ['\\', 'f']
  else if 32 ≤ c.toNat && c.toNat < 127 then [c]
  else if c.toNat < 0x10000 then unitEscape c.toNat
  else
    let n := c.toNat - 0x10000
    unitEscape (0xD800 + n / 0x400) ++ unitEscape (0xDC00 + n % 0x400)

/-- A text between double quotes. -/
def quote (s : String) : String := String.ofList ('"' :: (s.toList.flatMap escapeChar ++ ['"']))

/-- A number as JSON text. -/
def number : Binary64 → String
  | .infinite s => if s then "-Infinity" else "Infinity"
  | .nan => "NaN"
  | x => x.text

/-- The start of a line at a level. -/
def newLine (level : Nat) : String := String.ofList ('\n' :: List.replicate (2 * level) ' ')

mutual
/-- Data as text, at a level of indentation. -/
def renderAt (level : Nat) : Json → String
  | .null => "null"
  | .bool b => if b then "true" else "false"
  | .int n => toString n
  | .float x => number x
  | .text s => quote s
  | .list [] => "[]"
  | .list (v :: vs) =>
    "[" ++ newLine (level + 1) ++ renderAt (level + 1) v ++ renderItems (level + 1) vs
      ++ newLine level ++ "]"
  | .object [] => "\x7b\x7d"
  | .object ((k, v) :: fs) =>
    "\x7b" ++ newLine (level + 1) ++ quote k ++ ": " ++ renderAt (level + 1) v
      ++ renderFields (level + 1) fs ++ newLine level ++ "\x7d"

/-- The items after the first one of a list. -/
def renderItems (level : Nat) : List Json → String
  | [] => ""
  | v :: vs => "," ++ newLine level ++ renderAt level v ++ renderItems level vs

/-- The fields after the first one of an object. -/
def renderFields (level : Nat) : List (String × Json) → String
  | [] => ""
  | (k, v) :: fs =>
    "," ++ newLine level ++ quote k ++ ": " ++ renderAt level v ++ renderFields level fs
end

/-- Data as JSON text. -/
def render (j : Json) : String := j.renderAt 0

end Json

end Conventions
