import Conventions.Yaml.Cursor
import Conventions.Yaml.Token.Quoted

/-!
# Block scalars

A block scalar takes the indented lines below its header, as they are or folded. The header may say how
many columns the lines are indented, and whether the line ends after them are dropped or all kept.
-/

namespace Conventions.Yaml

/-- What becomes of the line ends after a block scalar: one is kept, none, or all. -/
inductive Chomping where
  | clip
  | strip
  | keep
deriving DecidableEq, Repr

/-- The chomping of an indicator. -/
def chomping? : Option Char → Option Chomping
  | some '+' => some .keep
  | some '-' => some .strip
  | _ => none

/-- The indentation of an indicator. -/
def increment? (c : Cursor) : Except Fault (Option Nat × Cursor) :=
  match c.peek with
  | some x =>
    if x = '0' then .error .invalid
    else if x.isDigit then .ok (some (digitValue x), c.next)
    else .ok (none, c)
  | none => .ok (none, c)

/-- Reads the header of a block scalar up to the end of its line. -/
def blockHeader (c : Cursor) : Except Fault (Chomping × Option Nat × Cursor) := do
  let (chomping, increment, c) ← match chomping? c.peek with
    | some k => do
      let (i, c) ← increment? c.next
      pure (k, i, c)
    | none => do
      let (i, c) ← increment? c
      match i, chomping? c.peek with
      | some i, some k => pure (k, some i, c.next)
      | i, _ => pure (.clip, i, c)
  if !endsMark c.peek then throw .invalid
  let c := c.skipSpaces.skipComment
  if !endsLine c.peek then throw .invalid
  return (chomping, increment, c.lineBreak.2)

/-- The position after spaces up to a column. -/
def skipIndent (indent : Nat) : Nat → Cursor → Cursor
  | 0, c => c
  | n + 1, c => if c.column < indent && c.peek = some ' ' then skipIndent indent n c.next else c

/-- The empty lines before a line of a block scalar, and the position at its text. -/
def blockBreaks (indent : Nat) : Nat → List Char → Cursor → List Char × Cursor
  | 0, breaks, c => (breaks, c)
  | n + 1, breaks, c =>
    let c := skipIndent indent indent c
    if c.peek.any isBreak then
      let (b, c) := c.lineBreak
      blockBreaks indent n (breaks ++ b) c
    else (breaks, c)

/-- The empty lines at the start of a block scalar, and the greatest column reached in them. -/
def blockIndent : Nat → List Char → Nat → Cursor → List Char × Nat × Cursor
  | 0, breaks, most, c => (breaks, most, c)
  | n + 1, breaks, most, c =>
    if c.peek = some ' ' then blockIndent n breaks (max most c.next.column) c.next
    else if c.peek.any isBreak then
      let (b, c) := c.lineBreak
      blockIndent n (breaks ++ b) most c
    else (breaks, most, c)

/-- The text of a block scalar: its lines, the end of the last one, and the empty lines after it. -/
structure BlockText where
  text : List Char
  lastBreak : List Char
  breaks : List Char
  after : Cursor

/-- Whether a line of a block scalar stands here. -/
def atBlockLine (indent : Nat) (c : Cursor) : Bool := c.column = indent && c.peek.isSome

/-- Reads the lines of a block scalar. -/
def blockLines (folded : Bool) (indent : Nat) : Nat → BlockText → BlockText
  | 0, b => b
  | n + 1, b =>
    if !atBlockLine indent b.after then b
    else
      let leading := b.after.peek.any isGap
      let (line, c) := b.after.span fun x => !isBreak x
      let (lineEnd, c) := c.lineBreak
      let (breaks, c) := blockBreaks indent (c.rest.length + 1) [] c
      let text := b.text ++ b.breaks ++ line
      if !atBlockLine indent c then ⟨text, lineEnd, breaks, c⟩
      else
        let fold := folded && lineEnd = ['\n'] && !leading && !c.peek.any isGap
        let joint := if fold then (if breaks.isEmpty then [' '] else []) else lineEnd
        blockLines folded indent n ⟨text ++ joint, lineEnd, breaks, c⟩

/-- Reads a block scalar below an indentation; `c` is after its first character. -/
def blockText (folded : Bool) (parent : Int) (c : Cursor) : Except Fault (List Char × Cursor) := do
  let (chomping, increment, c) ← blockHeader c
  let least := (max 1 (parent + 1)).toNat
  let fuel := c.rest.length + 1
  let (indent, breaks, c) := match increment with
    | some i =>
      let indent := least + i - 1
      let (breaks, c) := blockBreaks indent fuel [] c
      (indent, breaks, c)
    | none =>
      let (breaks, most, c) := blockIndent fuel [] 0 c
      (max least most, breaks, c)
  let b := blockLines folded indent fuel ⟨[], [], breaks, c⟩
  let tail := match chomping with
    | .strip => []
    | .clip => b.lastBreak
    | .keep => b.lastBreak ++ b.breaks
  return (b.text ++ tail, b.after)

end Conventions.Yaml
