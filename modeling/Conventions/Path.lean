import Conventions.Text.Split

/-!
# Paths

A path is a root (none, `/`, or exactly two slashes) and components; empty components and `.` are
dropped when a path is read, `..` stays. A path with a backslash is read in the other convention, in
which both slashes separate and a path may start with a drive or with the name of a shared folder.
-/

namespace Conventions

/-- A path: its root and its components. -/
structure Path where
  root : String
  parts : List String
deriving DecidableEq, Repr, Inhabited

namespace Path

/-- The components between separators, without the empty ones and the ones that are `.`. -/
def components (sep : Char) (cs : List Char) : List (List Char) :=
  (Text.splitOn sep cs).filter fun p => p ≠ [] ∧ p ≠ ['.']

/-- The root of a path and the characters after it: two slashes are kept, any other number is one. -/
def splitRoot (cs : List Char) : List Char × List Char :=
  let slashes := (cs.takeWhile (· = '/')).length
  let rest := cs.dropWhile (· = '/')
  if slashes = 0 then ([], rest) else if slashes = 2 then (['/', '/'], rest) else (['/'], rest)

/-- Reads a path. -/
def parse (s : String) : Path :=
  let r := splitRoot s.toList
  ⟨String.ofList r.1, (components '/' r.2).map String.ofList⟩

/-- The path as text; an empty path is written `.`. -/
def text (p : Path) : String :=
  let t := p.root ++ "/".intercalate p.parts
  if t.isEmpty then "." else t

/-- The path that a second path means from a first one; a rooted path stands for itself. -/
def join (p q : Path) : Path := if q.root.isEmpty then ⟨p.root, p.parts ++ q.parts⟩ else q

/-- The path with one more component. -/
def child (p : Path) (name : String) : Path := ⟨p.root, p.parts ++ [name]⟩

/-- The last component, or nothing. -/
def name (p : Path) : String := p.parts.getLast?.getD ""

/-- The extension of a file name: from its last point on, unless that is its first or last character. -/
def suffixOf (name : List Char) : List Char :=
  let stem := name.reverse.dropWhile (· ≠ '.')
  let ext := name.drop (stem.length - 1)
  if stem.length ≤ 1 ∨ ext.length ≤ 1 then [] else ext

/-- The extension of the last component in lower case. -/
def lowerSuffix (p : Path) : String := String.ofList (Text.lower (suffixOf p.name.toList))

/-- Whether a character names a drive. -/
def isDriveLetter (c : Char) : Bool := c.isAlpha

/-- The root of a path that starts with two backslashes and names a machine and a shared folder. -/
def splitShare (lead cs : List Char) : Option (List Char × List Char) :=
  match cs with
  | '\\' :: '\\' :: rest =>
    if rest.head? = some '\\' then none
    else
      let machine := Text.before '\\' rest
      if machine.length = rest.length then none
      else
        let below := Text.after '\\' rest
        if below.head? = some '\\' then none
        else
          let folder := Text.before '\\' below
          let drive := '\\' :: '\\' :: (machine ++ '\\' :: folder)
          some ((if lead.isEmpty then drive else lead ++ drive.drop 1) ++ ['\\'], Text.after '\\' below)
  | _ => none

/-- The drive and root of a path with backslashes, and the characters after it. -/
def splitDrive (cs : List Char) : List Char × List Char :=
  let (lead, cs) :=
    match cs with
    | '\\' :: '\\' :: '?' :: '\\' :: 'U' :: 'N' :: 'C' :: '\\' :: rest =>
      (['\\', '\\', '?', '\\', 'U', 'N', 'C'], '\\' :: '\\' :: rest)
    | '\\' :: '\\' :: '?' :: '\\' :: rest => (['\\', '\\', '?', '\\'], rest)
    | cs => ([], cs)
  match splitShare lead cs with
  | some r => r
  | none =>
    let (drive, cs) :=
      match cs with
      | c :: ':' :: rest => if isDriveLetter c then ([c, ':'], rest) else ([], cs)
      | cs => ([], cs)
    match cs with
    | '\\' :: rest => (lead ++ drive ++ ['\\'], rest.dropWhile (· = '\\'))
    | cs => (lead ++ drive, cs)

/-- The anchor and components of a path in which both slashes separate. -/
def backslashParts (cs : List Char) : List (List Char) :=
  let r := splitDrive (Text.replaceChar '/' ['\\'] cs)
  let parts := components '\\' r.2
  if r.1.isEmpty then parts else r.1 :: parts

/-- The anchor and components of a path in which only `/` separates. -/
def slashParts (cs : List Char) : List (List Char) :=
  let r := splitRoot cs
  let parts := components '/' r.2
  if r.1.isEmpty then parts else r.1 :: parts

/-- The segments of a path in the project tree: its parts without a plain root. -/
def segments (s : String) : List String :=
  let cs := s.toList
  let parts := if cs.contains '\\' then backslashParts cs else slashParts cs
  (parts.filter fun p => p ≠ ['/'] ∧ p ≠ ['\\']).map String.ofList

/-- Writes every backslash as a slash. -/
def toSlashes (s : String) : String := String.ofList (Text.replaceChar '\\' ['/'] s.toList)

end Path

end Conventions
