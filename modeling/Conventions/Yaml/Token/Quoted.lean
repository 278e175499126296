import Conventions.Yaml.Cursor

/-!
# Quoted scalars

Between single quotes only a doubled quote is special; between double quotes a backslash starts an escape.
Lines are folded.
-/

namespace Conventions.Yaml

/-- The characters that stand for others after a backslash. -/
def escapes : List (Char × Char) :=
  [('0', '\x00'), ('a', '\x07'), ('b', '\x08'), ('t', '\t'), ('\t', '\t'), ('n', '\n'), ('v', '\x0b'),
   ('f', '\x0c'), ('r', '\r'), ('e', '\x1b'), (' ', ' '), ('"', '"'), ('\\', '\\'), ('/', '/'),
   ('N', '\x85'), ('_', '\xa0'), ('L', '\u2028'), ('P', '\u2029')]

/-- The number of hexadecimal digits after the letter of a numeric escape. -/
def escapeDigits : Char → Option Nat
  | 'x' => some 2
  | 'u' => some 4
  | 'U' => some 8
  | _ => none

/-- Whether a character is a hexadecimal digit. -/
def isHexDigit (c : Char) : Bool :=
  c.isDigit || ('a' ≤ c && c ≤ 'f') || ('A' ≤ c && c ≤ 'F')

/-- The value of a digit in a base above ten. -/
def digitValue (c : Char) : Nat :=
  if c.isDigit then c.toNat - 48 else if c.isUpper then c.toNat - 55 else c.toNat - 87

/-- The number of hexadecimal digits. -/
def hexNumber (cs : List Char) : Nat := cs.foldl (fun n c => 16 * n + digitValue c) 0

/-- The character of a code point. -/
def charOfCode (n : Nat) : Except Fault Char :=
  if n < 0x110000 then .ok (Char.ofNat n)
  else if n < 0x80000000 then .error (.value "chr() arg not in range(0x110000)")
  else .error .overflow

/-- The empty lines within a quoted scalar. -/
def quotedBreaks : Nat → List Char → Cursor → Except Fault (List Char × Cursor)
  | 0, breaks, c => .ok (breaks, c)
  | n + 1, breaks, c =>
    if c.atSeparator then .error .invalid
    else
      let c := (c.span isGap).2
      if c.peek.any isBreak then
        let (b, c) := c.lineBreak
        quotedBreaks n (breaks ++ b) c
      else .ok (breaks, c)

/-- The text of an escape, and the position after it; `c` is after the backslash. -/
def escapeText (c : Cursor) : Except Fault (List Char × Cursor) :=
  match c.peek with
  | none => .error .invalid
  | some x =>
    match escapes.lookup x, escapeDigits x with
    | some y, _ => .ok ([y], c.next)
    | none, some n => do
      let digits := c.next.rest.take n
      if digits.length < n || !digits.all isHexDigit then throw .invalid
      return ([← charOfCode (hexNumber digits)], c.next.skip n)
    | none, none =>
      if isBreak x then
        let (_, c) := c.lineBreak
        quotedBreaks (c.rest.length + 1) [] c
      else .error .invalid

/-- Blanks and line ends within a quoted scalar as text, and the position after them. -/
def quotedGap (c : Cursor) : Except Fault (List Char × Cursor) :=
  let (spaces, c) := c.span isGap
  match c.peek with
  | none => .error .invalid
  | some x =>
    if isBreak x then do
      let (first, c) := c.lineBreak
      let (breaks, c) ← quotedBreaks (c.rest.length + 1) [] c
      return (foldBreaks first breaks, c)
    else .ok (spaces, c)

/-- Reads the rest of a quoted scalar after `text`, which is given from its end. -/
def quotedFrom (double : Bool) : Nat → List Char → Cursor → Except Fault (List Char × Cursor)
  | 0, _, _ => .error .invalid
  | n + 1, text, c =>
    match c.rest with
    | [] => .error .invalid
    | x :: xs =>
      if !double && x = '\'' && xs.head? = some '\'' then
        quotedFrom double n ('\'' :: text) (c.skip 2)
      else if x = (if double then '"' else '\'') then .ok (text.reverse, c.next)
      else if isGap x || isBreak x then do
        let (gap, c) ← quotedGap c
        quotedFrom double n (gap.reverseAux text) c
      else if double && x = '\\' then do
        let (escaped, c) ← escapeText c.next
        quotedFrom double n (escaped.reverseAux text) c
      else quotedFrom double n (x :: text) c.next

/-- Reads a quoted scalar. -/
def quotedText (double : Bool) (c : Cursor) : Except Fault (List Char × Cursor) :=
  quotedFrom double (c.rest.length + 1) [] c.next

end Conventions.Yaml
