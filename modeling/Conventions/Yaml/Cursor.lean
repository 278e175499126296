/-!
# Reading positions

A position in a YAML text: the characters that are left, and the number of characters, lines and columns
before them. Besides the line feed, the next-line character and the line and paragraph separators end a
line; as a line break, the first two count as a line feed. A byte order mark takes no column.
-/

namespace Conventions.Yaml

/-- Why a text gives no value: it is not valid, or one of its scalars has no value. -/
inductive Fault where
  | invalid
  | value (message : String)
  | index
  | key
  | attribute
  | overflow
deriving DecidableEq, Repr

/-- A position in a text. -/
structure Cursor where
  rest : List Char
  index : Nat
  line : Nat
  column : Nat
deriving Repr

/-- Whether a character ends a line. -/
def isBreak (c : Char) : Bool := c = '\n' || c = '\r' || c = '\x85' || c = '\u2028' || c = '\u2029'

/-- Whether a character is a blank within a line. -/
def isGap (c : Char) : Bool := c = ' ' || c = '\t'

/-- Whether nothing, a blank or a line end follows. -/
def endsWord : Option Char → Bool
  | none => true
  | some c => isGap c || isBreak c

/-- Whether nothing, a space or a line end follows. -/
def endsMark : Option Char → Bool
  | none => true
  | some c => c = ' ' || isBreak c

/-- Whether nothing or a line end follows. -/
def endsLine : Option Char → Bool
  | none => true
  | some c => isBreak c

namespace Cursor

/-- The position at the start of a text. -/
def start (cs : List Char) : Cursor := ⟨cs, 0, 0, 0⟩

/-- The next character. -/
def peek (c : Cursor) : Option Char := c.rest.head?

/-- The character after a number of characters. -/
def peekAt (c : Cursor) (n : Nat) : Option Char := c.rest[n]?

/-- The position after one character. -/
def next (c : Cursor) : Cursor :=
  match c.rest with
  | [] => c
  | x :: xs =>
    if isBreak x then ⟨xs, c.index + 1, c.line + 1, 0⟩
    else ⟨xs, c.index + 1, c.line, if x = '\uFEFF' then c.column else c.column + 1⟩

/-- The position after a number of characters. -/
def skip : Nat → Cursor → Cursor
  | 0, c => c
  | n + 1, c => skip n c.next

/-- The characters from here on that satisfy `p`, and the position after them. -/
def span (p : Char → Bool) (c : Cursor) : List Char × Cursor :=
  let cs := c.rest.takeWhile p
  (cs, c.skip cs.length)

/-- The position after the spaces from here on. -/
def skipSpaces (c : Cursor) : Cursor := (c.span (· = ' ')).2

/-- The position after a comment, if there is one here. -/
def skipComment (c : Cursor) : Cursor :=
  if c.peek = some '#' then (c.span fun x => !isBreak x).2 else c

/-- The line break at the position as text, or nothing, and the position after it. -/
def lineBreak (c : Cursor) : List Char × Cursor :=
  match c.peek with
  | some '\u2028' => (['\u2028'], c.next)
  | some '\u2029' => (['\u2029'], c.next)
  | some x => if isBreak x then (['\n'], c.next) else ([], c)
  | none => ([], c)

/-- Whether a text of three characters stands here with nothing attached to it. -/
def isMarker (text : String) (c : Cursor) : Bool :=
  text.toList.isPrefixOf c.rest && endsWord (c.peekAt 3)

/-- Whether the start or the end of a document stands here. -/
def atSeparator (c : Cursor) : Bool := c.isMarker "---" || c.isMarker "..."

end Cursor

/-- The text for a line break and the empty lines after it when lines are folded. -/
def foldBreaks (first breaks : List Char) : List Char :=
  if first ≠ ['\n'] then first ++ breaks else if breaks.isEmpty then [' '] else breaks

end Conventions.Yaml
