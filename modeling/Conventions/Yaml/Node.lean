import Conventions.Yaml.Scalar
import Conventions.Yaml.Token

/-!
# Nodes

The tokens of a document form a tree of scalars, sequences and mappings. An anchor gives a name to a node,
once in a document, and an alias stands for the node of a name. Within a node an alias for the node itself
stands for an empty one.
-/

namespace Conventions.Yaml

/-- A node. -/
inductive Node where
  | scalar (tag : Tag) (text : String)
  | sequence (tag : Tag) (items : List Node)
  | mapping (tag : Tag) (entries : List (Node × Node))
deriving Repr

/-- Where the reading of nodes stands: the tokens that are left, the meanings of tag handles, and the nodes
of anchors. -/
structure Reading where
  tokens : List Token
  handles : List (String × String)
  anchors : List (String × Node)

/-- A step of reading nodes. -/
abbrev Reader := StateT Reading (Except Fault)

namespace Reader

/-- The next token. -/
def peek : Reader (Option Token) := do return (← get).tokens.head?

/-- Drops the next token. -/
def drop : Reader Unit := modify fun r => { r with tokens := r.tokens.drop 1 }

/-- Drops the next token if it is a given one. -/
def accept (t : Token) : Reader Bool := do
  if (← peek) = some t then
    drop
    return true
  else return false

/-- Drops the next token, which has to be a given one. -/
def expect (t : Token) : Reader Unit := do
  if !(← accept t) then throw .invalid

/-- Whether the next token is one of some. -/
def atAny (ts : List Token) : Reader Bool := do return (← peek).any ts.contains

/-- The node that is not written. -/
def nothing : Node := .scalar .null ""

/-- The anchor and the tag in front of a node. -/
structure Properties where
  anchor : Option String
  tag : Option TagText

/-- Reads an anchor and a tag, in either order. -/
def properties : Nat → Properties → Reader Properties
  | 0, p => return p
  | n + 1, p => do
    match ← peek with
    | some (.anchor a) => if p.anchor.isSome then return p else drop; properties n { p with anchor := a }
    | some (.tag t) => if p.tag.isSome then return p else drop; properties n { p with tag := t }
    | _ => return p

/-- The full text of a tag. -/
def fullTag (t : TagText) : Reader String := do
  match t.handle with
  | none => return t.suffix
  | some h =>
    match Entries.get? h (← get).handles with
    | some meaning => return meaning ++ t.suffix
    | none => throw .invalid

/-- Gives a name to a node. -/
def bind_ (anchor : Option String) (node : Node) : Reader Unit :=
  match anchor with
  | none => return
  | some a => modify fun r => { r with anchors := Entries.set a node r.anchors }

/-- Refuses a name that is taken. -/
def checkAnchor (anchor : Option String) : Reader Unit := do
  if let some a := anchor then
    if (Entries.get? a (← get).anchors).isSome then throw .invalid

/-- The tag of a collection: the one that is written, or the one of its form. -/
def collectionTag (written : Option String) (form : Tag) : Tag :=
  match written with
  | none | some "!" => form
  | some t => .ofText t

/-- The tag of a scalar: the one that is written, or the one of its form if it is plain. -/
def scalarTag (written : Option String) (plain : Bool) (text : String) : Tag :=
  match written with
  | none => if plain then .ofPlain text else .text
  | some "!" => .ofPlain text
  | some t => .ofText t

/-- The tokens after which no value of a block mapping follows. -/
def blockStops : List Token := [.key, .value, .blockEnd]

mutual
/-- Reads a node; `block` allows block collections, and `indentless` a sequence that is not indented. -/
def node (block indentless : Bool) : Nat → Reader Node
  | 0 => throw .invalid
  | n + 1 => do
    if let some (.alias a) := ← peek then
      drop
      match Entries.get? a (← get).anchors with
      | some v => return v
      | none => throw .invalid
    let p ← properties 2 ⟨none, none⟩
    let tag ← p.tag.mapM fullTag
    checkAnchor p.anchor
    let sequence := fun (items : Reader (List Node)) => do
      let t := collectionTag tag .sequence
      bind_ p.anchor (.sequence t [])
      let v := Node.sequence t (← items)
      bind_ p.anchor v
      return v
    let mapping := fun (entries : Reader (List (Node × Node))) => do
      let t := collectionTag tag .mapping
      bind_ p.anchor (.mapping t [])
      let v := Node.mapping t (← entries)
      bind_ p.anchor v
      return v
    match ← peek with
    | some (.scalar text plain) =>
      drop
      let v := Node.scalar (scalarTag tag plain text) text
      bind_ p.anchor v
      return v
    | some .flowSequence => drop; sequence (flowItems true n)
    | some .flowMapping => drop; mapping (flowEntries true n)
    | next =>
      if indentless && next = some .blockEntry then sequence (indentlessItems n)
      else if block && next = some .blockSequence then drop; sequence (blockItems n)
      else if block && next = some .blockMapping then drop; mapping (blockEntries n)
      else if p.anchor.isSome || p.tag.isSome then
        let v := Node.scalar (scalarTag tag true "") ""
        bind_ p.anchor v
        return v
      else throw .invalid

/-- Reads a node unless one of some tokens follows. -/
def nodeUnless (stops : List Token) (block indentless : Bool) : Nat → Reader Node
  | 0 => throw .invalid
  | n + 1 => do if ← atAny stops then return nothing else node block indentless n

/-- Reads the entries of a block sequence up to its end. -/
def blockItems : Nat → Reader (List Node)
  | 0 => throw .invalid
  | n + 1 => do
    if ← accept .blockEntry then
      let v ← nodeUnless [.blockEntry, .blockEnd] true false n
      return v :: (← blockItems n)
    else
      expect .blockEnd
      return []

/-- Reads the entries of a block sequence that is not indented. -/
def indentlessItems : Nat → Reader (List Node)
  | 0 => throw .invalid
  | n + 1 => do
    if ← accept .blockEntry then
      let v ← nodeUnless [.blockEntry, .key, .value, .blockEnd] true false n
      return v :: (← indentlessItems n)
    else return []

/-- Reads the entries of a block mapping up to its end. -/
def blockEntries : Nat → Reader (List (Node × Node))
  | 0 => throw .invalid
  | n + 1 => do
    if ← accept .key then
      let k ← nodeUnless blockStops true true n
      let v ← blockValue n
      return (k, v) :: (← blockEntries n)
    else
      expect .blockEnd
      return []

/-- Reads the value of a key in a block mapping. -/
def blockValue : Nat → Reader Node
  | 0 => throw .invalid
  | n + 1 => do
    if ← accept .value then nodeUnless blockStops true true n else return nothing

/-- Reads the items of a sequence in brackets up to its end. -/
def flowItems (first : Bool) : Nat → Reader (List Node)
  | 0 => throw .invalid
  | n + 1 => do
    if ← accept .flowSequenceEnd then return []
    if !first then expect .flowEntry
    if ← accept .key then
      let k ← nodeUnless [.value, .flowEntry, .flowSequenceEnd] false false n
      let v ← flowValue .flowSequenceEnd n
      return .mapping .mapping [(k, v)] :: (← flowItems false n)
    else if ← accept .flowSequenceEnd then return []
    else
      let v ← node false false n
      return v :: (← flowItems false n)

/-- Reads the entries of a mapping in brackets up to its end. -/
def flowEntries (first : Bool) : Nat → Reader (List (Node × Node))
  | 0 => throw .invalid
  | n + 1 => do
    if ← accept .flowMappingEnd then return []
    if !first then expect .flowEntry
    if ← accept .key then
      let k ← nodeUnless [.value, .flowEntry, .flowMappingEnd] false false n
      let v ← flowValue .flowMappingEnd n
      return (k, v) :: (← flowEntries false n)
    else if ← accept .flowMappingEnd then return []
    else
      let k ← node false false n
      return (k, nothing) :: (← flowEntries false n)

/-- Reads the value of a key in brackets. -/
def flowValue (end_ : Token) : Nat → Reader Node
  | 0 => throw .invalid
  | n + 1 => do
    if ← accept .value then nodeUnless [.flowEntry, end_] false false n else return nothing
end

/-- The handles that need no directive. -/
def defaultHandles : List (String × String) := [("!", "!"), ("!!", Tag.scheme)]

/-- Reads the directives of a document: the handles that they define, and whether a version was seen. -/
def directives (versionSeen : Bool) : List (String × String) → Nat → Reader (List (String × String))
  | defined, 0 => return defined
  | defined, n + 1 => do
    match ← peek with
    | some (.directive d) =>
      drop
      match d with
      | .version major => if versionSeen || major ≠ 1 then throw .invalid else directives true defined n
      | .handle name meaning =>
        if (Entries.get? name defined).isSome then throw .invalid
        else directives versionSeen (defined ++ [(name, meaning)]) n
      | .other => directives versionSeen defined n
    | _ => return defined

/-- Drops the ends of documents. -/
def dropEnds : Nat → Reader Unit
  | 0 => return
  | n + 1 => do if ← accept .documentEnd then dropEnds n

/-- Whether a document starts without being announced. -/
def startsPlainly : Option Token → Bool
  | none | some .documentStart | some (.directive _) => false
  | _ => true

/-- Whether a document that was announced has no node. -/
def isEmptyDocument : Option Token → Bool
  | none | some .documentStart | some .documentEnd | some (.directive _) => true
  | _ => false

/-- Reads the one document of a text, if it has one. -/
def document (fuel : Nat) : Reader (Option Node) := do
  let finish := fun (v : Option Node) => do
    dropEnds fuel
    if (← peek).isSome then throw .invalid
    return v
  if startsPlainly (← peek) then finish (some (← node true false fuel))
  else if (← peek).isNone then return none
  else
    let defined ← directives false [] fuel
    modify fun r => { r with handles := Entries.overlay defaultHandles defined }
    expect .documentStart
    if isEmptyDocument (← peek) then finish (some nothing) else finish (some (← node true false fuel))

end Reader

/-- The node of the document that tokens form, if there is one. -/
def Node.ofTokens (ts : List Token) : Except Fault (Option Node) :=
  (Reader.document (3 * ts.length + 3)).run' ⟨ts, Reader.defaultHandles, []⟩

end Conventions.Yaml
