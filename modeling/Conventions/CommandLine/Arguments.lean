import Conventions.CommandLine.UsageFault
import Conventions.Text.Split

/-!
# Arguments

The arguments of a command are options and operands. An option has a long name after two dashes and may
have a letter after one dash; it takes a value or none. A value is attached, with `=` after a long name
and directly after a letter, or it is the next argument, whatever that looks like. Letters without
values can be written together. Two dashes alone end the options; a dash alone is an operand.

Main statement: arguments without a dash are operands, in order (`read_operands`).
-/

namespace Conventions.CommandLine

/-- An option that a command knows: its long name, its letter, and whether it takes a value. -/
structure OptionForm where
  name : String
  letter : Option Char
  takesValue : Bool
deriving DecidableEq, Repr

/-- A set of options that a command knows. -/
abbrev OptionForms := List OptionForm

/-- An option that was given, with its value if it takes one. -/
structure GivenOption where
  name : String
  value : Option String
deriving DecidableEq, Repr

/-- What one argument gives: options, and the name of an option whose value is the next argument. -/
structure Cluster where
  options : List GivenOption
  pending : Option String
deriving DecidableEq, Repr

/-- Options and operands in the order in which they were given. -/
structure Arguments where
  options : List GivenOption
  operands : List String
deriving DecidableEq, Repr

namespace OptionForms

/-- Reads an argument that starts with two dashes. -/
def readLong (forms : OptionForms) (arg : String) : Except UsageFault Cluster :=
  let name := String.ofList (Text.before '=' arg.toList)
  let attached? := if arg.toList.contains '=' then some (String.ofList (Text.after '=' arg.toList)) else none
  match forms.find? fun f => f.name == name with
  | none => .error (.unknownOption name)
  | some f =>
    match f.takesValue, attached? with
    | true, some v => .ok ⟨[⟨f.name, some v⟩], none⟩
    | true, none => .ok ⟨[], some f.name⟩
    | false, some _ => .error (.unexpectedValue f.name)
    | false, none => .ok ⟨[⟨f.name, none⟩], none⟩

/-- Reads the letters after one dash. -/
def readLetters (forms : OptionForms) : List Char → Except UsageFault Cluster
  | [] => .ok ⟨[], none⟩
  | c :: cs =>
    match forms.find? fun f => f.letter == some c with
    | none => .error (.unknownOption (String.ofList ['-', c]))
    | some f =>
      if f.takesValue then
        if cs.isEmpty then .ok ⟨[], some f.name⟩
        else .ok ⟨[⟨f.name, some (String.ofList cs)⟩], none⟩
      else
        (readLetters forms cs).map fun r => ⟨⟨f.name, none⟩ :: r.options, r.pending⟩

/-- Reads an argument with options. -/
def readCluster (forms : OptionForms) (arg : String) : Except UsageFault Cluster :=
  if ['-', '-'].isPrefixOf arg.toList then forms.readLong arg
  else forms.readLetters (arg.toList.drop 1)

end OptionForms

namespace Arguments

/-- Whether an argument has options: it starts with a dash and has more than that. -/
def hasOptions (arg : String) : Bool := arg.toList.head? = some '-' && arg ≠ "-"

/-- Arguments with more options in front. -/
def addOptions (os : List GivenOption) (a : Arguments) : Arguments := ⟨os ++ a.options, a.operands⟩

/-- Arguments with one more operand in front. -/
def addOperand (x : String) (a : Arguments) : Arguments := ⟨a.options, x :: a.operands⟩

/-- Reads arguments; without mixing, everything from the first operand on is an operand. -/
def read (forms : OptionForms) (mixed : Bool) : List String → Except UsageFault Arguments
  | [] => .ok ⟨[], []⟩
  | arg :: rest =>
    if arg = "--" then .ok ⟨[], rest⟩
    else if hasOptions arg then
      match forms.readCluster arg with
      | .error f => .error f
      | .ok ⟨options, none⟩ => (read forms mixed rest).map (addOptions options)
      | .ok ⟨options, some name⟩ =>
        match rest with
        | [] => .error (.missingValue name)
        | v :: rest => (read forms mixed rest).map (addOptions (options ++ [⟨name, some v⟩]))
    else if mixed then (read forms mixed rest).map (addOperand arg)
    else .ok ⟨[], arg :: rest⟩

theorem read_dashes (forms : OptionForms) (mixed : Bool) (args : List String) :
    read forms mixed ("--" :: args) = .ok ⟨[], args⟩ := by
  simp [read]

theorem read_operands (forms : OptionForms) {args : List String}
    (h : ∀ a ∈ args, hasOptions a = false) (hd : "--" ∉ args) :
    read forms true args = .ok ⟨[], args⟩ := by
  induction args with
  | nil => rfl
  | cons a as ih =>
      simp only [List.mem_cons, not_or, forall_eq_or_imp] at h hd
      simp [read, Ne.symm hd.1, h.1, ih h.2 hd.2, Except.map, addOperand]

/-- Whether an option was given. -/
def has (a : Arguments) (name : String) : Bool := a.options.any fun o => o.name == name

/-- The value of an option that was given; the last one counts. -/
def value? (a : Arguments) (name : String) : Option String :=
  (a.options.findRev? fun o => o.name == name).bind GivenOption.value

/-- The value of an option that was given, as one of several choices. -/
def choice? {α : Type} (a : Arguments) (name : String) (all : List α) (word : α → String) :
    Except UsageFault (Option α) :=
  match a.value? name with
  | none => .ok none
  | some w =>
    match all.find? fun x => word x == w with
    | some x => .ok (some x)
    | none => .error (.notAChoice name w (all.map word))

end Arguments

end Conventions.CommandLine
