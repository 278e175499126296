import Conventions.Entries
import Conventions.Yaml.Token.Block
import Conventions.Yaml.Token.Plain
import Conventions.Yaml.Token.Property

/-!
# Tokens

A YAML text is a sequence of tokens. Indentation opens and closes block collections, and a scalar in
front of a colon becomes a key only when the colon is seen, so the tokens that open a mapping are put in
front of it then. Such a simple key lies on one line and has at most 1024 characters up to its colon.
-/

namespace Conventions.Yaml

/-- A token. -/
inductive Token where
  | directive (d : Directive)
  | documentStart
  | documentEnd
  | blockSequence
  | blockMapping
  | blockEnd
  | flowSequence
  | flowSequenceEnd
  | flowMapping
  | flowMappingEnd
  | blockEntry
  | flowEntry
  | key
  | value
  | alias (name : String)
  | anchor (name : String)
  | tag (t : TagText)
  | scalar (text : String) (plain : Bool)
deriving DecidableEq, Repr

/-- A place at which a simple key may have started. -/
structure KeyStart where
  token : Nat
  required : Bool
  index : Nat
  line : Nat
  column : Nat
deriving Repr

/-- Where the reading of tokens stands: the position, the depth of brackets, the column of the innermost
block collection and those around it, whether a simple key may start here, where simple keys may have
started in each depth, and the tokens so far. -/
structure Scan where
  cursor : Cursor
  flow : Nat
  indent : Int
  outer : List Int
  allowKey : Bool
  keys : List (Nat × KeyStart)
  tokens : Array Token
deriving Repr

namespace Scan

/-- The start of a text. -/
def start (cs : List Char) : Scan := ⟨.start cs, 0, -1, [], true, [], #[]⟩

/-- Whether the position is within brackets. -/
def inFlow (s : Scan) : Bool := s.flow ≠ 0

/-- Adds a token. -/
def push (s : Scan) (t : Token) : Scan := { s with tokens := s.tokens.push t }

/-- Adds a token at an earlier place. -/
def insertAt (s : Scan) (i : Nat) (t : Token) : Scan :=
  { s with tokens := (s.tokens.extract 0 i).push t ++ s.tokens.extract i s.tokens.size }

/-- The position after a number of characters. -/
def advance (s : Scan) (n : Nat) : Scan := { s with cursor := s.cursor.skip n }

/-- The column of the position. -/
def column (s : Scan) : Int := s.cursor.column

/-- Opens a block collection at a column if it lies further right than the innermost one. -/
def addIndent (s : Scan) (column : Int) (i : Nat) (t : Token) : Scan :=
  if s.indent < column then
    { s.insertAt i t with outer := s.indent :: s.outer, indent := column }
  else s

/-- Closes the block collections that lie further right than a column. -/
def unwind (column : Int) : Nat → Scan → Scan
  | 0, s => s
  | n + 1, s =>
    if s.inFlow || s.indent ≤ column then s
    else
      unwind column n
        { s.push .blockEnd with indent := s.outer.headD (-1), outer := s.outer.drop 1 }

/-- Closes the block collections that lie further right than a column. -/
def close (s : Scan) (column : Int) : Scan := unwind column (s.outer.length + 1) s

/-- Forgets the simple key that may have started in this depth, unless one has to be there. -/
def dropKey (s : Scan) : Except Fault Scan :=
  match Entries.get? s.flow s.keys with
  | none => .ok s
  | some k =>
    if k.required then .error .invalid
    else .ok { s with keys := s.keys.filter fun e => e.1 ≠ s.flow }

/-- Notes that a simple key may start here. -/
def saveKey (s : Scan) : Except Fault Scan :=
  if !s.allowKey then .ok s
  else do
    let required := !s.inFlow && s.indent = s.column
    let s ← s.dropKey
    let k : KeyStart := ⟨s.tokens.size, required, s.cursor.index, s.cursor.line, s.cursor.column⟩
    return { s with keys := Entries.set s.flow k s.keys }

/-- Whether a simple key that started somewhere cannot end here. -/
def isStale (s : Scan) (k : KeyStart) : Bool :=
  k.line ≠ s.cursor.line || 1024 < s.cursor.index - k.index

/-- Forgets the simple keys that cannot end here, unless one of them has to be there. -/
def dropStale (s : Scan) : Except Fault Scan :=
  let stale := s.keys.filter fun e => s.isStale e.2
  if stale.any fun e => e.2.required then .error .invalid
  else .ok { s with keys := s.keys.filter fun e => !s.isStale e.2 }

/-- Skips spaces, comments and line ends; after a line end outside of brackets a key may start. -/
def skipBlank : Nat → Scan → Scan
  | 0, s => s
  | n + 1, s =>
    let c := s.cursor.skipSpaces.skipComment
    if c.peek.any isBreak then
      skipBlank n { s with cursor := c.lineBreak.2, allowKey := s.allowKey || !s.inFlow }
    else { s with cursor := c }

/-- Skips a byte order mark at the start of the text. -/
def skipMark (s : Scan) : Scan :=
  if s.cursor.index = 0 && s.cursor.peek = some '\uFEFF' then s.advance 1 else s

/-- Reads the start or the end of a document. -/
def documentMarker (s : Scan) (t : Token) : Except Fault Scan := do
  let s ← (s.close (-1)).dropKey
  return { (s.push t).advance 3 with allowKey := false }

/-- Reads a directive. -/
def directiveLine (s : Scan) : Except Fault Scan := do
  let s ← (s.close (-1)).dropKey
  let (d, c) ← directive s.cursor
  return { s.push (.directive d) with allowKey := false, cursor := c }

/-- Reads an open bracket. -/
def openFlow (s : Scan) (t : Token) : Except Fault Scan := do
  let s ← s.saveKey
  return { (s.push t).advance 1 with flow := s.flow + 1, allowKey := true }

/-- Reads a closing bracket. -/
def closeFlow (s : Scan) (t : Token) : Except Fault Scan := do
  let s ← s.dropKey
  if !s.inFlow then throw .invalid
  return { (s.push t).advance 1 with flow := s.flow - 1, allowKey := false }

/-- Reads a comma in brackets. -/
def flowComma (s : Scan) : Except Fault Scan := do
  let s ← { s with allowKey := true }.dropKey
  return (s.push .flowEntry).advance 1

/-- Reads the hyphen of an entry. -/
def entryMark (s : Scan) : Except Fault Scan := do
  if !s.inFlow && !s.allowKey then throw .invalid
  let s := if s.inFlow then s else s.addIndent s.column s.tokens.size .blockSequence
  let s ← { s with allowKey := true }.dropKey
  return (s.push .blockEntry).advance 1

/-- Reads the question mark of a key. -/
def keyMark (s : Scan) : Except Fault Scan := do
  if !s.inFlow && !s.allowKey then throw .invalid
  let s := if s.inFlow then s else s.addIndent s.column s.tokens.size .blockMapping
  let s ← { s with allowKey := !s.inFlow }.dropKey
  return (s.push .key).advance 1

/-- Reads the colon of a value, which makes a key of what may be a simple key. -/
def valueMark (s : Scan) : Except Fault Scan :=
  match Entries.get? s.flow s.keys with
  | some k =>
    let s := { s with keys := s.keys.filter fun e => e.1 ≠ s.flow }
    let s := s.insertAt k.token .key
    let s := if s.inFlow then s else s.addIndent k.column k.token .blockMapping
    .ok { (s.push .value).advance 1 with allowKey := false }
  | none => do
    if !s.inFlow && !s.allowKey then throw .invalid
    let s := if s.inFlow then s else s.addIndent s.column s.tokens.size .blockMapping
    let s ← { s with allowKey := !s.inFlow }.dropKey
    return (s.push .value).advance 1

/-- Adds a token that may start a simple key and is read by `read`. -/
def word {α : Type} (s : Scan) (read : Cursor → Except Fault (α × Cursor)) (token : α → Token) :
    Except Fault Scan := do
  let s ← s.saveKey
  let (a, c) ← read s.cursor
  return { s.push (token a) with allowKey := false, cursor := c }

/-- Reads a quoted scalar. -/
def quoted (s : Scan) (double : Bool) : Except Fault Scan :=
  s.word (quotedText double) fun t => .scalar (String.ofList t) false

/-- Reads a block scalar. -/
def block (s : Scan) (folded : Bool) : Except Fault Scan := do
  let s ← { s with allowKey := true }.dropKey
  let (t, c) ← blockText folded s.indent s.cursor.next
  return { s.push (.scalar (String.ofList t) false) with cursor := c }

/-- Reads a plain scalar. -/
def plain (s : Scan) : Except Fault Scan := do
  let s ← s.saveKey
  let t := plainText s.inFlow (s.indent + 1) s.cursor
  return { s.push (.scalar (String.ofList t.text) true) with
    allowKey := t.brokeLine, cursor := t.after }

/-- Whether a plain scalar may start with a character, given what follows it. -/
def startsPlain (inFlow : Bool) (x : Char) (following : Option Char) : Bool :=
  !(isGap x || isBreak x || "-?:,[]\x7b\x7d#&*!|>'\"%@\x60".toList.contains x)
    || (!endsWord following && (x = '-' || (!inFlow && (x = '?' || x = ':'))))

/-- Reads the token that starts with a character. -/
def token (s : Scan) (x : Char) : Except Fault Scan :=
  let following := s.cursor.peekAt 1
  let atStart := s.cursor.column = 0
  if x = '%' && atStart then s.directiveLine
  else if atStart && s.cursor.isMarker "---" then s.documentMarker .documentStart
  else if atStart && s.cursor.isMarker "..." then s.documentMarker .documentEnd
  else if x = '[' then s.openFlow .flowSequence
  else if x = '\x7b' then s.openFlow .flowMapping
  else if x = ']' then s.closeFlow .flowSequenceEnd
  else if x = '\x7d' then s.closeFlow .flowMappingEnd
  else if x = ',' then s.flowComma
  else if x = '-' && endsWord following then s.entryMark
  else if x = '?' && (s.inFlow || endsWord following) then s.keyMark
  else if x = ':' && (s.inFlow || endsWord following) then s.valueMark
  else if x = '*' then s.word anchorName .alias
  else if x = '&' then s.word anchorName .anchor
  else if x = '!' then s.word tagText .tag
  else if x = '|' && !s.inFlow then s.block false
  else if x = '>' && !s.inFlow then s.block true
  else if x = '\'' then s.quoted false
  else if x = '"' then s.quoted true
  else if startsPlain s.inFlow x following then s.plain
  else .error .invalid

/-- Reads all tokens of at most `fuel`. -/
def run : Nat → Scan → Except Fault (Array Token)
  | 0, _ => .error .invalid
  | n + 1, s => do
    let s ← (skipBlank (s.cursor.rest.length + 1) s.skipMark).dropStale
    let s := s.close s.column
    match s.cursor.peek with
    | none => return (← (s.close (-1)).dropKey).tokens
    | some x => run n (← s.token x)

end Scan

/-- The tokens of a text. -/
def Token.ofText (cs : List Char) : Except Fault (List Token) :=
  (Scan.run (cs.length + 2) (.start cs)).map Array.toList

end Conventions.Yaml
