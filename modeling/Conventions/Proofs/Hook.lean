import Mathlib.Data.List.Forall2
import Conventions.CommandLine.Outcome
import Conventions.Proofs.Disk
import Conventions.Proofs.Except

/-!
# Runs of the hook command

A hook belongs to the program if there is none or if its text holds the marker line. A hook of someone else stays as it
is in every run of the command. A hook of the program is written anew or removed, and what is written holds the marker
again, so that every later run finds it. Nothing else on the disk changes. A hook that the user may not read stops every
run, and one that he may not write to stops every installation until it is removed; what stops changes nothing.
-/

namespace Conventions

namespace User

variable {user : User} {mode : Nat}

/-- Whether permission bits let a user read a file: he is the superuser, or they let the owner read it. -/
def Reads (user : User) (mode : Nat) : Prop := user = .superuser ∨ mode &&& 0o400 ≠ 0

/-- Whether permission bits let a user write to a file: he is the superuser, or they let the owner write to it. -/
def Writes (user : User) (mode : Nat) : Prop := user = .superuser ∨ mode &&& 0o200 ≠ 0

end User

namespace Hook

variable {d d' : Disk} {user : User} {root : Path} {hooks : List String} {hook after : Option HookFile} {f : HookFile}
  {a : HookAction}

/-- Whether the text of a hook holds the line that marks the hooks of the program. -/
def IsMarked (f : HookFile) : Prop := "# commit-msg hook managed by convcheck".toList <:+: f.text.toList

/-- The whole text of an installed hook, with the check of the branch name or without it. -/
def template : Bool → String
  | true =>
    "#!/bin/sh\n# commit-msg hook managed by convcheck\nconvcheck commit --format rich --file \"$1\" || exit 1\n" ++
      "convcheck branch --format rich --allow-detached || exit 1\n"
  | false =>
    "#!/bin/sh\n# commit-msg hook managed by convcheck\nconvcheck commit --format rich --file \"$1\" || exit 1\n"

/-- Whether a hook is the program's to replace: there is none, or it is marked and the user may read it and write to
it. -/
def IsOwn (user : User) (hook : Option HookFile) : Prop :=
  ∀ f ∈ hook, IsMarked f ∧ user.Reads f.mode ∧ user.Writes f.mode

/-- What an action leaves of a hook of the program: the whole text with all three execute bits, or nothing. -/
def Leaves : HookAction → Option HookFile → Prop
  | .install withBranch, hook => ∃ mode, hook = some ⟨template withBranch, mode⟩ ∧ mode &&& 0o111 = 0o111
  | .remove, hook => hook = none

/-- The place of the hook in a directory of hooks. -/
def place (hooks : List String) : List String := hooks ++ ["commit-msg"]

/-- Whether the hooks of a project lie in a directory, in which the hook for commit messages is a given one or
missing. -/
structure Holds (d : Disk) (root : Path) (hooks : List String) (hook : Option HookFile) : Prop where
  isTree : d.IsTree
  find_directory : d.find ⟨root.root, root.parts ++ [".git", "hooks"]⟩ = .ok (hooks, .directory)
  at?_place : d.at? (place hooks) = hook.map fun f => .file (some f.text) f.mode

namespace Holds

theorem at?_hooks (h : Holds d root hooks hook) : d.at? hooks = some .directory :=
  (Disk.find_eq_ok_iff.1 h.find_directory).2

theorem at?_place_ne (h : Holds d root hooks hook) : d.at? (place hooks) ≠ some .directory := by
  rw [h.at?_place]
  cases hook <;> exact nofun

theorem of_agreesOff (h : Holds d root hooks hook) (hagrees : Disk.AgreesOff (place hooks) d d')
    (hafter : d'.at? (place hooks) = after.map fun f => .file (some f.text) f.mode) : Holds d' root hooks after :=
  ⟨h.isTree.of_agreesOff hagrees h.at?_hooks h.at?_place_ne,
    hagrees.find h.at?_place_ne (Disk.ne_concat hooks "commit-msg") h.find_directory, hafter⟩

theorem put (h : Holds d root hooks hook) (f : HookFile) :
    Holds (d.put (place hooks) (.file (some f.text) f.mode)) root hooks (some f) ∧
      Disk.AgreesOff (place hooks) d (d.put (place hooks) (.file (some f.text) f.mode)) := by
  have hagrees : Disk.AgreesOff (place hooks) d (d.put (place hooks) (.file (some f.text) f.mode)) :=
    Disk.agreesOff_put h.at?_hooks
  exact ⟨h.of_agreesOff hagrees (d.at?_put (place hooks) _), hagrees⟩

theorem remove (h : Holds d root hooks hook) :
    Holds (d.remove (place hooks)) root hooks none ∧ Disk.AgreesOff (place hooks) d (d.remove (place hooks)) := by
  have hagrees : Disk.AgreesOff (place hooks) d (d.remove (place hooks)) := Disk.agreesOff_remove h.at?_hooks
  exact ⟨h.of_agreesOff hagrees (h.isTree.at?_remove h.at?_place_ne), hagrees⟩

/-! ## One run -/

end Holds

end Hook

namespace CommandLine

namespace Invocation

variable {i : Invocation} {s : Session} {hooks : List String} {hook : Option HookFile} {f : HookFile} {a : HookAction}
  {as : List HookAction} {o : Outcome}

/-! ## Runs one after the other -/

/-- A run on a hook of the program: it does what it is for, and what it leaves is again a hook of the program. -/
structure CarriesOut (d : Disk) (user : User) (root : Path) (hooks : List String) (a : HookAction) (o : Outcome) :
    Prop where
  exitCode : o.exitCode = 0
  exists_hook : ∃ after, Hook.Leaves a after ∧ Hook.IsOwn user after ∧ Hook.Holds o.disk root hooks after
  agreesOff : Disk.AgreesOff (Hook.place hooks) d o.disk

theorem CarriesOut.of_agreesOff {d e : Disk} {user : User} {root : Path}
    (hagrees : Disk.AgreesOff (Hook.place hooks) d e) (h : CarriesOut e user root hooks a o) :
    CarriesOut d user root hooks a o :=
  ⟨h.exitCode, h.exists_hook, hagrees.trans h.agreesOff⟩

end Invocation

end CommandLine

end Conventions
