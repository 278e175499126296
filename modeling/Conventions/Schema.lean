import Conventions.Artifact
import Conventions.Entries
import Conventions.Text.Order
import Conventions.Value.Basic

/-!
# Placement schemas

A schema says which kinds of files may lie under which directories. It is compiled from a mapping
from directory paths to kinds into a tree in which a directory named `*` stands for every name that
has no directory of its own. Walking a path goes down as far as the tree goes; the last directory on
the way that declares kinds decides.
-/

namespace Conventions

/-- A directory of a schema: the kinds that it declares, if any, and the directories below it. -/
inductive Tree where
  | node (kinds : Option KindSet) (children : List (String × Tree))
deriving Repr, Inhabited

namespace Tree

/-- The directory that declares nothing and has nothing below it. -/
def empty : Tree := .node none []

/-- The kinds that a directory declares. -/
def kinds : Tree → Option KindSet
  | .node ks _ => ks

/-- The directories below a directory. -/
def children : Tree → List (String × Tree)
  | .node _ cs => cs

/-- The kinds that are declared in one of two ways. -/
def unite (ks : KindSet) : Option KindSet → KindSet
  | none => ks
  | some old => old.union ks

/-- The tree with kinds declared for the directory at a path. -/
def insert (ks : KindSet) : List String → Tree → Tree
  | [], .node old cs => .node (some (unite ks old)) cs
  | s :: ss, .node old cs =>
    .node old (Entries.set s (insert ks ss ((Entries.get? s cs).getD empty)) cs)

/-- The directory for a name: its own one, or the one for every name. -/
def child? (t : Tree) (name : String) : Option Tree :=
  (Entries.get? name t.children).or (Entries.get? "*" t.children)

/-- The directories that are passed on the way down a path, as far as the tree goes. -/
def trail (t : Tree) : List String → List Tree
  | [] => []
  | s :: ss =>
    match t.child? s with
    | none => []
    | some c => c :: trail c ss

/-- The last directory of a trail that declares kinds, by its depth. -/
def lastDeclared : List Tree → Option (Nat × KindSet)
  | [] => none
  | t :: ts =>
    match lastDeclared ts with
    | some (n, ks) => some (n + 1, ks)
    | none => t.kinds.map fun ks => (1, ks)

end Tree

/-- Where a path leads in a schema. -/
structure Placement where
  depth : Nat
  allowed : KindSet
  declaredAt : List String
deriving DecidableEq, Repr

/-- Whether the first segment of the path was found. -/
def Placement.rootKnown (p : Placement) : Bool := p.depth ≠ 0

/-- A compiled schema: its tree, and what it declares for each path. -/
structure Schema where
  tree : Tree
  entries : List (List String × KindSet)
deriving Repr, Inhabited

/-- Why a mapping is no schema. -/
inductive SchemaFault where
  | noSegments (path : String)
  | unknownKind (path raw : String)
  | notIterable (kind : String)
deriving DecidableEq, Repr

/-- The message about a mapping that is no schema. -/
def SchemaFault.message : SchemaFault → String
  | .noSegments path => s!"placement prefix '{path}' has no path segments"
  | .unknownKind path raw =>
    s!"placement prefix '{path}': invalid kind '{raw}', must be one of "
      ++ Text.quotedList (ArtifactKind.all.map ArtifactKind.word)
  | .notIterable kind => s!"'{kind}' object is not iterable"

namespace Schema

/-- The schema that declares nothing. -/
def empty : Schema := ⟨.empty, []⟩

/-- The schema with kinds declared for one more path. -/
def declare (s : Schema) (path : List String) (ks : KindSet) : Schema :=
  ⟨s.tree.insert ks path, Entries.set path (Tree.unite ks (Entries.get? path s.entries)) s.entries⟩

/-- The directories that a path names: blanks around the path and slashes around that are dropped. -/
def pathSegments (path : String) : List String :=
  let bare := Text.dropEndWhile (· = '/') ((Text.trim path.toList).dropWhile (· = '/'))
  ((Text.splitOn '/' bare).filter (· ≠ [])).map String.ofList

/-- The kind that a value names. -/
def readKind (path : String) (v : Value) : Except SchemaFault ArtifactKind :=
  match ArtifactKind.ofText? v.plain with
  | some k => .ok k
  | none => .error (.unknownKind path v.plain)

/-- The kinds that a value lists. -/
def readKinds (path : String) (v : Value) : Except SchemaFault KindSet :=
  match v.items? with
  | none => .error (.notIterable v.kindName)
  | some items => (items.mapM (readKind path)).map KindSet.ofList

/-- The schema with one more entry of a mapping. -/
def readEntry (s : Schema) (e : String × Value) : Except SchemaFault Schema :=
  match pathSegments e.1 with
  | [] => .error (.noSegments e.1)
  | path => (readKinds e.1 e.2).map (s.declare path)

/-- Compiles a mapping from paths to lists of kinds. -/
def ofMapping (mapping : List (String × Value)) : Except SchemaFault Schema :=
  mapping.foldlM readEntry empty

/-- The top-level directories in alphabetical order. -/
def roots (s : Schema) : List String := Text.sorted (Entries.keys s.tree.children)

/-- Walks a path down the schema. -/
def walk (s : Schema) (segments : List String) : Placement :=
  let trail := s.tree.trail segments
  match Tree.lastDeclared trail with
  | none => ⟨trail.length, .empty, []⟩
  | some (n, ks) => ⟨trail.length, ks, segments.take n⟩

end Schema

end Conventions
