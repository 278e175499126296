import Conventions.Yaml.Cursor

/-!
# Plain scalars

A plain scalar ends at a colon with a blank after it, at a comment, in brackets also at the punctuation
of brackets, and at a line that is not indented enough. Its lines are folded.
-/

namespace Conventions.Yaml

/-- Whether a plain scalar ends at a character, given what follows it. -/
def endsPlain (inFlow : Bool) (c : Char) (following : Option Char) : Bool :=
  isGap c || isBreak c
    || (c = ':' && (endsWord following || (inFlow && following.any ",[]\x7b\x7d".toList.contains)))
    || (inFlow && ",?[]\x7b\x7d".toList.contains c)

/-- The characters of a plain scalar up to the next blank. -/
def plainChunk (inFlow : Bool) : List Char → List Char
  | [] => []
  | c :: cs => if endsPlain inFlow c cs.head? then [] else c :: plainChunk inFlow cs

/-- What stands between two chunks of a plain scalar: text, or nothing if the scalar ends, whether a line
ended, and the position after it. -/
structure PlainGap where
  text : List Char
  brokeLine : Bool
  after : Cursor

/-- The empty lines after a line of a plain scalar; nothing if a document separator follows. -/
def plainBreaks : Nat → List Char → Cursor → Option (List Char) × Cursor
  | 0, breaks, c => (some breaks, c)
  | n + 1, breaks, c =>
    match c.peek with
    | some ' ' => plainBreaks n breaks c.next
    | some x =>
      if isBreak x then
        let (b, c) := c.lineBreak
        if c.atSeparator then (none, c) else plainBreaks n (breaks ++ b) c
      else (some breaks, c)
    | none => (some breaks, c)

/-- The gap after a chunk of a plain scalar. -/
def plainGap (c : Cursor) : PlainGap :=
  let (spaces, c) := c.span (· = ' ')
  if c.peek.any isBreak then
    let (first, c) := c.lineBreak
    if c.atSeparator then ⟨[], true, c⟩
    else
      match plainBreaks c.rest.length [] c with
      | (none, c) => ⟨[], true, c⟩
      | (some breaks, c) => ⟨foldBreaks first breaks, true, c⟩
  else ⟨spaces, false, c⟩

/-- A plain scalar: its text, whether a line ended after it, and the position after it. -/
structure PlainText where
  text : List Char
  brokeLine : Bool
  after : Cursor

/-- Reads chunks of a plain scalar, after a gap. -/
def plainFrom (inFlow : Bool) (indent : Int) : Nat → List Char → PlainGap → PlainText
  | 0, text, gap => ⟨text, gap.brokeLine, gap.after⟩
  | n + 1, text, gap =>
    let c := gap.after
    let chunk := if c.peek = some '#' then [] else plainChunk inFlow c.rest
    if chunk.isEmpty then ⟨text, gap.brokeLine, c⟩
    else
      let text := text ++ gap.text ++ chunk
      let gap := plainGap (c.skip chunk.length)
      if gap.text.isEmpty || gap.after.peek = some '#'
          || (!inFlow && (gap.after.column : Int) < indent) then
        ⟨text, gap.brokeLine, gap.after⟩
      else plainFrom inFlow indent n text gap

/-- Reads a plain scalar whose further lines have at least an indentation. -/
def plainText (inFlow : Bool) (indent : Int) (c : Cursor) : PlainText :=
  plainFrom inFlow indent (c.rest.length + 1) [] ⟨[], false, c⟩

end Conventions.Yaml
