import Conventions.CommandLine.Invocation

/-!
# Help

The version of the program, and what its commands take.
-/

namespace Conventions.CommandLine

/-- The version of the program. -/
def versionText : String := "convcheck, version 0.1.0\n"

namespace OptionForm

/-- An option as it is written on a command line. -/
def usage (f : OptionForm) : String :=
  f.name ++ (f.letter.elim "" fun c => String.ofList [',', ' ', '-', c])
    ++ (if f.takesValue then " VALUE" else "")

end OptionForm

namespace CommandName

/-- The operands of a command as they are written on a command line. -/
def operandUsage : CommandName → String
  | .branch => " [NAME]"
  | .commit => " [MESSAGE]"
  | .identifier => " NAMES..."
  | .path => " PATHS..."
  | .tree | .rules | .installHooks => ""

end CommandName

/-- The lines about options. -/
def optionLines (forms : OptionForms) : List String :=
  "Options:" :: forms.map fun f => "  " ++ f.usage

/-- The help about a command, or about the whole program. -/
def helpText : Option CommandName → String
  | none =>
    "\n".intercalate (["Usage: convcheck [OPTIONS] COMMAND [ARGS]...", ""] ++ optionLines globalForms
      ++ ["", "Commands:"] ++ CommandName.all.map fun c => "  " ++ c.word) ++ "\n"
  | some c =>
    "\n".intercalate (["Usage: convcheck " ++ c.word ++ " [OPTIONS]" ++ c.operandUsage, ""]
      ++ optionLines c.forms) ++ "\n"

end Conventions.CommandLine
