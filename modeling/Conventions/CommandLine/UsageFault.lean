/-!
# Usage faults

What can be wrong with a command line itself, before anything is checked.
-/

namespace Conventions.CommandLine

/-- Why a command line is refused. -/
inductive UsageFault where
  | missingCommand
  | unknownCommand (word : String)
  | unknownOption (name : String)
  | missingOption (name : String)
  | missingValue (name : String)
  | unexpectedValue (name : String)
  | notAChoice (name value : String) (choices : List String)
  | notAFile (name path : String)
  | notADirectory (name path : String)
  | missingOperand (name : String)
  | extraOperands (operands : List String)
deriving DecidableEq, Repr

namespace UsageFault

/-- The message about a command line. -/
def message : UsageFault → String
  | .missingCommand => "Missing command."
  | .unknownCommand word => s!"No such command '{word}'."
  | .unknownOption name => s!"No such option: {name}"
  | .missingOption name => s!"Missing option '{name}'."
  | .missingValue name => s!"Option '{name}' requires an argument."
  | .unexpectedValue name => s!"Option '{name}' does not take a value."
  | .notAChoice name value choices =>
    s!"Invalid value for '{name}': '{value}' is not one of " ++ ", ".intercalate choices ++ "."
  | .notAFile name path => s!"Invalid value for '{name}': '{path}' is not a file."
  | .notADirectory name path => s!"Invalid value for '{name}': '{path}' is not a directory."
  | .missingOperand name => s!"Missing argument '{name}'."
  | .extraOperands operands => "Unexpected extra arguments: " ++ " ".intercalate operands

/-- The exit code after a usage fault. -/
def exitCode : Nat := 2

end UsageFault

end Conventions.CommandLine
