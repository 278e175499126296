import Conventions.Artifact
import Conventions.CommandLine.Arguments
import Conventions.Disk
import Conventions.Hook
import Conventions.Identifier
import Conventions.Report.Format

/-!
# Invocations

A command line names one of seven commands, after options that concern every command and before the
options and operands of that command. It is refused if an option, an operand or a file that it names is
not usable; otherwise it asks for the version, for help, or for a run of the command.
-/

namespace Conventions.CommandLine

/-- The commands. -/
inductive CommandName where
  | branch
  | commit
  | identifier
  | path
  | tree
  | rules
  | installHooks
deriving DecidableEq, Repr

/-- How the report of a command is shown: in a format, if one is given, and with what exit code. -/
structure Display where
  format : Option ReportFormat
  failOnWarn : Bool
deriving DecidableEq, Repr

/-- A command with its options and operands. -/
inductive Command where
  | branch (name : Option String) (allowDetached : Bool) (display : Display)
  | commit (message : Option String) (file : Option Path) (display : Display)
  | identifier (names : List String) (kind : IdentifierKind) (display : Display)
  | path (paths : List String) (kind : Option ArtifactKind) (applyIgnore : Bool) (display : Display)
  | tree (identifiers listed : Bool) (display : Display)
  | rules (asJson : Bool)
  | hooks (action : HookAction)
deriving DecidableEq, Repr

/-- A command with the options that concern every command. -/
structure Invocation where
  verbose : Bool
  config : Option Path
  project : Option Path
  command : Command
deriving DecidableEq, Repr

/-- What a command line asks for. -/
inductive Wish where
  | version
  | help (command : Option CommandName)
  | run (invocation : Invocation)
deriving DecidableEq, Repr

namespace CommandName

/-- Every command. -/
def all : List CommandName := [.branch, .commit, .identifier, .path, .tree, .rules, .installHooks]

/-- The word for a command. -/
def word : CommandName → String
  | .branch => "branch"
  | .commit => "commit"
  | .identifier => "identifier"
  | .path => "path"
  | .tree => "tree"
  | .rules => "rules"
  | .installHooks => "install-hooks"

/-- The command of a word. -/
def ofWord? (w : String) : Option CommandName := all.find? fun c => c.word == w

end CommandName

/-! ## Options -/

/-- The option that asks for help. -/
def helpForm : OptionForm := ⟨"--help", none, false⟩

/-- The options that concern every command. -/
def globalForms : OptionForms :=
  [⟨"--version", none, false⟩, ⟨"--verbose", some 'v', false⟩, ⟨"--config", none, true⟩,
    ⟨"--project", none, true⟩, helpForm]

/-- The options of a command that shows a report. -/
def displayForms : OptionForms := [⟨"--format", none, true⟩, ⟨"--fail-on-warn", none, false⟩]

/-- The options of a command. -/
def CommandName.forms : CommandName → OptionForms
  | .branch => ⟨"--allow-detached", none, false⟩ :: displayForms ++ [helpForm]
  | .commit => ⟨"--file", some 'F', true⟩ :: displayForms ++ [helpForm]
  | .identifier => ⟨"--kind", some 'k', true⟩ :: displayForms ++ [helpForm]
  | .path => [⟨"--kind", some 'k', true⟩, ⟨"--no-ignore", none, false⟩] ++ displayForms ++ [helpForm]
  | .tree => [⟨"--no-identifiers", none, false⟩, ⟨"--stdin", none, false⟩] ++ displayForms ++ [helpForm]
  | .rules => [⟨"--json", none, false⟩, helpForm]
  | .installHooks => [⟨"--remove", none, false⟩, ⟨"--no-branch", none, false⟩, helpForm]

namespace Arguments

/-- What the first option asks for that asks for the version or for help. -/
def wish? (a : Arguments) (command : Option CommandName) : Option Wish :=
  (a.options.find? fun o => o.name == "--version" || o.name == "--help").map fun o =>
    if o.name == "--version" then .version else .help command

/-- Whether a path, as it is written, may lead to a file: it ends with a name. -/
def mayBeFile (path : String) : Bool :=
  !([[], ['.']].contains ((Text.splitOn '/' path.toList).getLast?.getD []))

/-- The file that an option names. -/
def file? (a : Arguments) (d : Disk) (name : String) : Except UsageFault (Option Path) :=
  match a.value? name with
  | none => .ok none
  | some p =>
    if mayBeFile p && d.isFile (Path.parse p) then .ok (some (Path.parse p))
    else .error (.notAFile name p)

/-- The directory that an option names. -/
def directory? (a : Arguments) (d : Disk) (name : String) : Except UsageFault (Option Path) :=
  match a.value? name with
  | none => .ok none
  | some p =>
    if !p.isEmpty && d.isDirectory (Path.parse p) then .ok (some (Path.parse p))
    else .error (.notADirectory name p)

/-- How a report is shown. -/
def display (a : Arguments) : Except UsageFault Display :=
  (a.choice? "--format" ReportFormat.all ReportFormat.word).map fun f => ⟨f, a.has "--fail-on-warn"⟩

/-- The only operand, if there is one. -/
def atMostOne (a : Arguments) : Except UsageFault (Option String) :=
  match a.operands with
  | [] => .ok none
  | [x] => .ok (some x)
  | _ :: extra => .error (.extraOperands extra)

/-- The operands, of which there must be one. -/
def atLeastOne (a : Arguments) (name : String) : Except UsageFault (List String) :=
  if a.operands.isEmpty then .error (.missingOperand name) else .ok a.operands

/-- Refuses operands. -/
def noOperands (a : Arguments) : Except UsageFault Unit :=
  if a.operands.isEmpty then .ok () else .error (.extraOperands a.operands)

end Arguments

/-! ## Commands -/

/-- Reads the options and operands of a command. -/
def CommandName.readCommand (c : CommandName) (d : Disk) (a : Arguments) :
    Except UsageFault Command := do
  match c with
  | .branch => return .branch (← a.atMostOne) (a.has "--allow-detached") (← a.display)
  | .commit => return .commit (← a.atMostOne) (← a.file? d "--file") (← a.display)
  | .identifier =>
    let names ← a.atLeastOne "NAMES"
    match ← a.choice? "--kind" IdentifierKind.all IdentifierKind.word with
    | none => throw (.missingOption "--kind")
    | some kind => return .identifier names kind (← a.display)
  | .path =>
    let paths ← a.atLeastOne "PATHS"
    let kind ← a.choice? "--kind" ArtifactKind.all ArtifactKind.word
    return .path paths kind (!a.has "--no-ignore") (← a.display)
  | .tree =>
    a.noOperands
    return .tree (!a.has "--no-identifiers") (a.has "--stdin") (← a.display)
  | .rules =>
    a.noOperands
    return .rules (a.has "--json")
  | .installHooks =>
    a.noOperands
    return .hooks (if a.has "--remove" then .remove else .install (!a.has "--no-branch"))

namespace Wish

/-- Reads what follows the word of a command. -/
def ofCommand (d : Disk) (globals : Arguments) (config project : Option Path) (c : CommandName)
    (args : List String) : Except UsageFault Wish := do
  let a ← Arguments.read c.forms true args
  match a.wish? (some c) with
  | some w => return w
  | none => return .run ⟨globals.has "--verbose", config, project, ← c.readCommand d a⟩

/-- Reads operands that start with no command; behind `--` they may still ask for the version or for help. -/
def ofUnknown (word : String) (operands : List String) : Except UsageFault Wish := do
  match (← Arguments.read globalForms false operands).wish? none with
  | some w => return w
  | none => throw (.unknownCommand word)

/-- Reads a command line. -/
def read (d : Disk) (args : List String) : Except UsageFault Wish := do
  let globals ← Arguments.read globalForms false args
  match globals.wish? none with
  | some w => return w
  | none =>
    let config ← globals.file? d "--config"
    let project ← globals.directory? d "--project"
    match globals.operands with
    | [] => throw .missingCommand
    | word :: rest =>
      match CommandName.ofWord? word with
      | some c => ofCommand d globals config project c rest
      | none => ofUnknown word globals.operands

end Wish

end Conventions.CommandLine
