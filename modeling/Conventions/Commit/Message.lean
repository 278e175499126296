import Conventions.Text.Blank
import Conventions.Text.Lines
import Conventions.Text.Split

/-!
# Commit message files

A file with a commit message has comment lines that start with `#`, and may have a scissors line, below
which nothing counts. What is left starts with a line that is not blank and ends without blanks.
-/

namespace Conventions.Commit

/-- The line below which nothing counts. -/
def scissors : List Char := "# ------------------------ >8 ------------------------".toList

/-- Whether a line is a comment. -/
def isComment (line : List Char) : Bool := line.head? = some '#'

/-- The lines of a message that count. -/
def keptLines (lines : List (List Char)) : List (List Char) :=
  ((lines.takeWhile (· ≠ scissors)).filter fun l => !isComment l).dropWhile Text.allBlank

/-- The message of a text with comments. -/
def strip (text : List Char) : List Char :=
  Text.trimEnd (Text.join ['\n'] (keptLines (Text.lines text)))

/-- The message of a text with comments. -/
def stripMessage (text : String) : String := String.ofList (strip text.toList)

end Conventions.Commit
