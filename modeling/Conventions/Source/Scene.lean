import Conventions.Source.Declaration
import Conventions.Text.Blank
import Conventions.Text.Lines
import Conventions.Text.Word
import Conventions.Entries

/-!
# Scenes

A scene lists its nodes in headers in brackets with attributes. The node at the root, which has no parent,
and instances of other scenes are named after their scenes and are left out.
-/

namespace Conventions.Scene

/-- The text of the attributes in the header of a node. -/
def header? (line : List Char) : Option (List Char) :=
  let cs := Text.trim line
  if "[node".toList.isPrefixOf cs then
    match cs.drop 5 with
    | c :: rest =>
      if Text.isBlank c && rest.getLast? = some ']' then some (Text.trimStart rest).dropLast else none
    | [] => none
  else none

/-- The text up to the closing quote, and the rest; a backslash keeps the character after it. -/
def toQuote : List Char → Option (List Char × List Char)
  | [] => none
  | '"' :: cs => some ([], cs)
  | '\\' :: c :: cs => (toQuote cs).map fun r => ('\\' :: c :: r.1, r.2)
  | '\\' :: [] => none
  | c :: cs => (toQuote cs).map fun r => (c :: r.1, r.2)

/-- The value at the start of a text and the rest: a text between quotes, or everything up to a blank. -/
def value? (cs : List Char) : Option (List Char × List Char) :=
  let bare := cs.takeWhile fun c => !Text.isBlank c
  let run := if bare.isEmpty then none else some (bare, cs.drop bare.length)
  match cs with
  | '"' :: rest => (toQuote rest).map (fun r => ('"' :: (r.1 ++ ['"']), r.2)) |>.or run
  | _ => run

/-- The attribute at the start of a text, a word, `=` and a value, and the rest. -/
def attribute? (cs : List Char) : Option ((List Char × List Char) × List Char) :=
  let key := cs.takeWhile Text.isWord
  if key.isEmpty then none
  else
    match cs.drop key.length with
    | '=' :: rest => (value? rest).map fun r => ((key, r.1), r.2)
    | _ => none

/-- The attributes of a text of at most `fuel` characters, from left to right. -/
def attributesOf : Nat → List Char → List (List Char × List Char)
  | 0, _ => []
  | _, [] => []
  | n + 1, c :: cs =>
    match attribute? (c :: cs) with
    | some (a, rest) => a :: attributesOf n rest
    | none => attributesOf n cs

/-- A value without the quotes at its ends. -/
def unquoted (cs : List Char) : List Char := Text.dropEndWhile (· = '"') (cs.dropWhile (· = '"'))

/-- The attributes of a header, of which the last one for a key counts. -/
def attributes (cs : List Char) : List (List Char × List Char) :=
  Entries.overlay [] ((attributesOf cs.length cs).map fun a => (a.1, unquoted a.2))

/-- The name of the node that a line declares. -/
def declared? (line : List Char) : Option (List Char × IdentifierKind) := do
  let as ← (header? line).map attributes
  let name ← Entries.get? "name".toList as
  if name.isEmpty || (Entries.get? "parent".toList as).isNone
      || (Entries.get? "instance".toList as).isSome then none
  else some (name, .nodeName)

/-- The declarations of a scene. -/
def declarations (text : String) : List Declaration :=
  Declaration.ofLinesFrom declared? 1 (Text.lines text.toList)

end Conventions.Scene
