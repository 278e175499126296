/-!
# Log

What the program notes on the side: warnings, and details that are shown only on request.
-/

namespace Conventions

/-- How much a note matters. -/
inductive LogLevel where
  | debug
  | warning
deriving DecidableEq, Repr

/-- The part of the program that makes a note. -/
inductive LogTopic where
  | config
  | git
  | validation
  | check
deriving DecidableEq, Repr

/-- A note. -/
structure LogLine where
  level : LogLevel
  topic : LogTopic
  message : String
deriving DecidableEq, Repr

namespace LogLine

/-- A note as a line of text. -/
def text (l : LogLine) : String :=
  let level := match l.level with
    | .debug => "DEBUG"
    | .warning => "WARNING"
  let topic := match l.topic with
    | .config => "convcheck.config"
    | .git => "convcheck.infrastructure.git"
    | .validation => "convcheck.engine.validator"
    | .check => "convcheck.checker"
  s!"{level} {topic}: {l.message}"

/-- The notes that are shown: the warnings, and all of them on request. -/
def shown (verbose : Bool) (ls : List LogLine) : List LogLine :=
  if verbose then ls else ls.filter fun l => l.level = .warning

end LogLine

end Conventions
