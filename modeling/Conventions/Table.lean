import Conventions.Text.Blank
import Conventions.Text.Split
import Conventions.Text.Width

/-!
# Tables

A table has a title, a header and rows of cells, which may have several lines. Each column is as wide as its
widest cell, with a blank on both sides; the header stands in a heavy frame, the rows in a light one, and the
title is centred over the table. Tags in brackets in a cell ask for a style and are not shown.
-/

namespace Conventions

/-- A table. -/
structure Table where
  title : String
  header : List String
  rows : List (List String)
deriving DecidableEq, Repr

/-- A closing tag without an opening one. -/
structure UnopenedTag where
  name : String
deriving DecidableEq, Repr

namespace Table

/-- Whether a tag may start with a character. -/
def startsTag (c : Char) : Bool := ('a' ≤ c && c ≤ 'z') || c = '#' || c = '/' || c = '@'

/-- The tag that stands after an open bracket, and the rest. -/
def tag? : List Char → Option (List Char × List Char)
  | [] => none
  | c :: cs =>
    if !startsTag c then none
    else
      let body := cs.takeWhile fun x => x ≠ '[' && x ≠ ']'
      match cs.drop body.length with
      | ']' :: rest => some (c :: body, rest)
      | _ => none

/-- The tags that are open after one more tag. -/
def openTags (opened : List (List Char)) (tag : List Char) : Except UnopenedTag (List (List Char)) :=
  let name := Text.trim (Text.before '=' tag)
  match name with
  | '/' :: rest =>
    let closed := Text.trim rest
    if closed.isEmpty then
      match opened with
      | [] => .error ⟨""⟩
      | _ :: os => .ok os
    else if closed ∈ opened then .ok (opened.erase closed)
    else .error ⟨String.ofList closed⟩
  | _ => .ok (name :: opened)

/-- A text without its tags; a backslash in front of a tag shows the tag. -/
def plainFrom : Nat → List (List Char) → List Char → Except UnopenedTag (List Char)
  | 0, _, cs => .ok cs
  | _, _, [] => .ok []
  | n + 1, opened, c :: cs =>
    let slashes := (c :: cs).takeWhile (· = '\\')
    match (c :: cs).drop slashes.length with
    | '[' :: rest =>
      let kept := List.replicate (slashes.length / 2) '\\'
      match tag? rest with
      | some (tag, after) =>
        if slashes.length % 2 = 1 then
          (plainFrom n opened after).map fun r => kept ++ '[' :: (tag ++ ']' :: r)
        else do
          let opened ← openTags opened tag
          return kept ++ (← plainFrom n opened after)
      | none =>
        (plainFrom n opened rest).map fun r => slashes.drop 1 ++ '[' :: r
    | _ =>
      if slashes.isEmpty then (plainFrom n opened cs).map (c :: ·)
      else (plainFrom n opened ((c :: cs).drop slashes.length)).map (slashes ++ ·)

/-- Whether a character is dropped from a cell. -/
def isDropped (c : Char) : Bool := [7, 8, 11, 12, 13].contains c.toNat

/-- The lines of a cell. -/
def cellLines (cell : String) : Except UnopenedTag (List (List Char)) :=
  let cs := cell.toList
  (plainFrom cs.length [] cs).map fun text => Text.splitOn '\n' (text.filter fun c => !isDropped c)

/-- A line filled up with blanks to a width. -/
def fill (width : Nat) (line : List Char) : List Char :=
  line ++ List.replicate (width - Text.width line) ' '

/-- The greatest width of the lines of a cell. -/
def cellWidth (lines : List (List Char)) : Nat := (lines.map Text.width).foldl max 0

/-- The widths of the columns of rows. -/
def columnWidths (rows : List (List (List (List Char)))) : List Nat :=
  rows.foldl (fun ws row => ws.zipWith max (row.map cellWidth)) ((rows.headD []).map fun _ => 0)

/-- A line between rows. -/
def rule (left line middle right : Char) (widths : List Nat) : List Char :=
  left :: (Text.join [middle] (widths.map fun w => List.replicate (w + 2) line) ++ [right])

/-- A line of cells, the blanks on both sides of each cell included. -/
def cells (edge : Char) (widths : List Nat) (lines : List (List Char)) : List Char :=
  edge :: (Text.join [edge] (widths.zipWith (fun w l => ' ' :: (fill w l ++ [' '])) lines) ++ [edge])

/-- The lines of a row. -/
def rowLines (edge : Char) (widths : List Nat) (row : List (List (List Char))) : List (List Char) :=
  let height := (row.map List.length).foldl max 1
  (List.range height).map fun i => cells edge widths (row.map fun cell => (cell[i]?).getD [])

/-- A line in the middle of a width. -/
def centred (width : Nat) (line : List Char) : List Char :=
  let missing := width - Text.width line
  fill width (List.replicate (missing / 2) ' ' ++ line)

/-- A table as lines. -/
def lines (t : Table) : Except UnopenedTag (List (List Char)) := do
  let title ← cellLines t.title
  let header ← t.header.mapM cellLines
  let rows ← t.rows.mapM fun row => row.mapM cellLines
  let widths := columnWidths (header :: rows)
  let top := rule '┏' '━' '┳' '┓' widths
  return title.map (centred top.length) ++ [top] ++ rowLines '┃' widths header
    ++ [rule '┡' '━' '╇' '┩' widths] ++ rows.flatMap (rowLines '│' widths)
    ++ [rule '└' '─' '┴' '┘' widths]

/-- A table as text. -/
def render (t : Table) : Except UnopenedTag String :=
  t.lines.map fun ls => String.ofList (ls.flatMap fun l => l ++ ['\n'])

end Table

end Conventions
