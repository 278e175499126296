import Conventions.Yaml.Cursor
import Conventions.Yaml.Token.Quoted

/-!
# Anchors, tags and directives

An anchor names a node and an alias repeats it; a tag says what a node is, with a handle that a directive
may define; a directive stands on a line of its own before a document.
-/

namespace Conventions.Yaml

/-- Whether a character belongs to the name of an anchor, a handle or a directive. -/
def isWordChar (c : Char) : Bool := c.isAlphanum || c = '-' || c = '_'

/-- Reads the name after the indicator of an anchor or an alias. -/
def anchorName (c : Cursor) : Except Fault (String × Cursor) :=
  let (name, c) := c.next.span isWordChar
  let ends := endsWord c.peek || c.peek.any "?:,]\x7d%@\x60".toList.contains
  if name.isEmpty || !ends then .error .invalid else .ok (String.ofList name, c)

/-- Whether a character may stand in the suffix of a tag. -/
def isTagChar (c : Char) : Bool := c.isAlphanum || "-;/?:@&=+$,_.!~*'()[]%".toList.contains c

/-- The bytes of escapes from here on. -/
def tagBytes : Nat → Cursor → Except Fault (List UInt8 × Cursor)
  | 0, c => .ok ([], c)
  | n + 1, c =>
    if c.peek ≠ some '%' then .ok ([], c)
    else
      let digits := c.next.rest.take 2
      if digits.length < 2 || !digits.all isHexDigit then .error .invalid
      else do
        let (bytes, c) ← tagBytes n (c.skip 3)
        return ((hexNumber digits).toUInt8 :: bytes, c)

/-- Reads the suffix of a tag. -/
def tagSuffixFrom : Nat → List Char → Cursor → Except Fault (List Char × Cursor)
  | 0, text, c => .ok (text, c)
  | n + 1, text, c =>
    if c.peek = some '%' then do
      let (bytes, c) ← tagBytes c.rest.length c
      match String.fromUTF8? ⟨bytes.toArray⟩ with
      | some s => tagSuffixFrom n (text ++ s.toList) c
      | none => throw .invalid
    else
      match c.peek with
      | some x => if isTagChar x then tagSuffixFrom n (text ++ [x]) c.next else .ok (text, c)
      | none => .ok (text, c)

/-- Reads the suffix of a tag, which is not empty. -/
def tagSuffix (c : Cursor) : Except Fault (String × Cursor) := do
  let (text, after) ← tagSuffixFrom (c.rest.length + 1) [] c
  if c.rest.length = after.rest.length then throw .invalid
  return (String.ofList text, after)

/-- Reads the handle of a tag: `!`, or a word between two of them. -/
def tagHandle (c : Cursor) : Except Fault (String × Cursor) :=
  if c.peek ≠ some '!' then .error .invalid
  else
    let (word, after) := c.next.span isWordChar
    if after.peek = some '!' then .ok ("!" ++ String.ofList word ++ "!", after.next)
    else if word.isEmpty && after.peek = some ' ' then .ok ("!", after)
    else .error .invalid

/-- A tag as it is written: its handle, unless it is given in full, and its suffix. -/
structure TagText where
  handle : Option String
  suffix : String
deriving DecidableEq, Repr

/-- Reads a tag. -/
def tagText (c : Cursor) : Except Fault (TagText × Cursor) := do
  let (tag, c) ← match c.peekAt 1 with
    | some '<' => do
      let (suffix, c) ← tagSuffix (c.skip 2)
      if c.peek ≠ some '>' then throw .invalid
      pure (⟨none, suffix⟩, c.next)
    | x =>
      if endsWord x then pure (⟨none, "!"⟩, c.next)
      else do
        let word := c.next.rest.takeWhile fun x => !endsMark (some x)
        let (handle, c) ← if '!' ∈ word then tagHandle c else pure ("!", c.next)
        let (suffix, c) ← tagSuffix c
        pure (⟨some handle, suffix⟩, c)
  if !endsMark c.peek then throw .invalid
  return (tag, c)

/-- A line before a document: the version of the format, the meaning of a handle, or something else. -/
inductive Directive where
  | version (major : Nat)
  | handle (name meaning : String)
  | other
deriving DecidableEq, Repr

/-- Reads a number. -/
def versionNumber (c : Cursor) : Except Fault (Nat × Cursor) :=
  let (digits, c) := c.span Char.isDigit
  if digits.isEmpty then .error .invalid
  else .ok (digits.foldl (fun n d => 10 * n + digitValue d) 0, c)

/-- Reads what follows the name of a directive. -/
def directiveValue (name : String) (c : Cursor) : Except Fault (Directive × Cursor) := do
  if name = "YAML" then
    let (major, c) ← versionNumber c.skipSpaces
    if c.peek ≠ some '.' then throw .invalid
    let (_, c) ← versionNumber c.next
    if !endsMark c.peek then throw .invalid
    return (.version major, c)
  else if name = "TAG" then
    let (handle, c) ← tagHandle c.skipSpaces
    if c.peek ≠ some ' ' then throw .invalid
    let (meaning, c) ← tagSuffix c.skipSpaces
    if !endsMark c.peek then throw .invalid
    return (.handle handle meaning, c)
  else return (.other, (c.span fun x => !isBreak x).2)

/-- Reads a directive up to the end of its line. -/
def directive (c : Cursor) : Except Fault (Directive × Cursor) := do
  let (name, c) := c.next.span isWordChar
  if name.isEmpty || !endsMark c.peek then throw .invalid
  let (d, c) ← directiveValue (String.ofList name) c
  let c := c.skipSpaces.skipComment
  if !endsLine c.peek then throw .invalid
  return (d, c.lineBreak.2)

end Conventions.Yaml
