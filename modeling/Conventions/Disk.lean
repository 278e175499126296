import Conventions.Entries
import Conventions.Path
import Conventions.Text.Lines

/-!
# Disk

Files and directories, with a working directory. A file holds text, or something that is not valid text,
and has permission bits. A directory is there if it was made, if something lies in it, or if the working
directory does. Looking up a path goes down component by component, from the working directory unless
the path has a root; `..` goes up again.

Files belong to the user who runs the program, unless that is the superuser, and directories let him in.
What permission bits keep him from is said where a file is used whose bits may be anything; other files are
taken as readable.
-/

namespace Conventions

/-- What lies at a path. -/
inductive DiskNode where
  | file (text : Option String) (mode : Nat)
  | directory
deriving DecidableEq, Repr

/-- Who runs the program: the owner of the files, or a user whom permission bits do not bind. -/
inductive User where
  | owner
  | superuser
deriving DecidableEq, Repr

namespace User

/-- Whether a user may read a file with some permission bits. -/
def mayRead : User → Nat → Bool
  | .owner, mode => mode &&& 0o400 ≠ 0
  | .superuser, _ => true

/-- Whether a user may write to a file with some permission bits. -/
def mayWrite : User → Nat → Bool
  | .owner, mode => mode &&& 0o200 ≠ 0
  | .superuser, _ => true

end User

/-- A working directory, and what lies on the disk by the components of its place. -/
structure Disk where
  cwd : Path
  nodes : List (List String × DiskNode)

/-- Why a path leads to no file, or the file is not open to the user. -/
inductive DiskFault where
  | missing
  | isDirectory
  | notDirectory
  | denied
deriving DecidableEq, Repr

/-- Why a file cannot be used: nothing usable lies at its path, or it is not text. -/
inductive FileFault where
  | disk (fault : DiskFault)
  | undecodable
deriving DecidableEq, Repr

/-- The message about a path that leads to no file, or to one that is not open to the user. -/
def DiskFault.message : DiskFault → String
  | .missing => "[Errno 2] No such file or directory"
  | .isDirectory => "[Errno 21] Is a directory"
  | .notDirectory => "[Errno 20] Not a directory"
  | .denied => "[Errno 13] Permission denied"

namespace Disk

/-- What lies at a place. -/
def at? (d : Disk) (place : List String) : Option DiskNode :=
  match Entries.get? place d.nodes with
  | some n => some n
  | none =>
    if place.isPrefixOf d.cwd.parts || d.nodes.any fun e => place.isPrefixOf e.1 then some .directory
    else none

/-- Goes down the components of a path from a directory. -/
def descend (d : Disk) (here : List String) : List String → Except DiskFault (List String)
  | [] => .ok here
  | ".." :: rest => descend d here.dropLast rest
  | name :: rest =>
    let next := here ++ [name]
    match d.at? next with
    | none => .error .missing
    | some .directory => descend d next rest
    | some (.file _ _) => if rest.isEmpty then .ok next else .error .notDirectory

/-- The place where a path starts: the top of the disk, or the working directory. -/
def start (d : Disk) (p : Path) : List String := if p.root.isEmpty then d.cwd.parts else []

/-- What lies at a path, with its place. -/
def find (d : Disk) (p : Path) : Except DiskFault (List String × DiskNode) :=
  match d.descend (d.start p) p.parts with
  | .error f => .error f
  | .ok place =>
    match d.at? place with
    | some n => .ok (place, n)
    | none => .error .missing

/-- Whether a directory lies at a path. -/
def isDirectory (d : Disk) (p : Path) : Bool :=
  match d.find p with
  | .ok (_, .directory) => true
  | _ => false

/-- Whether a file lies at a path. -/
def isFile (d : Disk) (p : Path) : Bool :=
  match d.find p with
  | .ok (_, .file _ _) => true
  | _ => false

/-- The text of the file at a path, if it is valid, with every line end as a line feed. -/
def read (d : Disk) (p : Path) : Except DiskFault (Option String) :=
  match d.find p with
  | .error f => .error f
  | .ok (_, .directory) => .error .isDirectory
  | .ok (_, .file text _) =>
    .ok (text.map fun s => String.ofList (Text.unifyNewlines s.toList))

/-- The text of the file at a path, if there is one. -/
def readText? (d : Disk) (p : Path) : Option String :=
  match d.read p with
  | .ok t => t
  | .error _ => none

/-- The disk with something put at a place. -/
def put (d : Disk) (place : List String) (n : DiskNode) : Disk :=
  { d with nodes := Entries.set place n d.nodes }

theorem at?_put (d : Disk) (place : List String) (n : DiskNode) :
    (d.put place n).at? place = some n := by
  simp [at?, put, Entries.get?_set_self]

/-- The disk without the file at a place; its directory stays. -/
def remove (d : Disk) (place : List String) : Disk :=
  { d.put place.dropLast .directory with
    nodes := (d.put place.dropLast .directory).nodes.filter fun e => e.1 ≠ place }

end Disk

end Conventions
