import Conventions.Check
import Conventions.Commit.Message
import Conventions.CommandLine.Invocation
import Conventions.Config.Load
import Conventions.RuleSet.Listing

/-!
# Outcomes

What a run of a command leaves behind: an exit code, the output, the text on the error stream, the disk,
and the calls of git. Checks exit with 0 or 1 as their report says. A configuration that is not valid, a
missing branch name and a failed call of git exit with 2. Only the hook command changes the disk, and it
reads no configuration.
-/

namespace Conventions.CommandLine

/-- What a run meets: the disk and its user, the answers of git, the input, and the format that applies if none is
given. -/
structure Session where
  disk : Disk
  user : User
  git : List String → GitOutcome
  input : String
  format : ReportFormat

/-- What a run leaves behind. -/
structure Outcome where
  exitCode : Nat
  output : String
  errors : String
  disk : Disk
  gitCalls : List (List String)

/-- Why a run stops without an outcome. -/
inductive Crash where
  | config (fault : LoadFault)
  | file (fault : FileFault)
  | listing (fault : UnopenedTag)
deriving Repr

namespace Crash

/-- The message about a run that stopped. -/
def message : Crash → String
  | .config f => f.message
  | .file .undecodable => "not valid text"
  | .file (.disk f) => f.message
  | .listing f => s!"closing tag '[/{f.name}]' matches no open tag"

/-- The exit code after a run that stopped. -/
def exitCode : Nat := 1

end Crash

/-- Lines as a text in which every one has its end. -/
def lineText (ls : List String) : String := String.join (ls.map (· ++ "\n"))

/-- A text that is not empty, with the end of its last line. -/
def printed (s : String) : String := if s.isEmpty then "" else s ++ "\n"

namespace Invocation

/-- The directory of the project. -/
def root (i : Invocation) (s : Session) : Path := i.project.getD s.disk.cwd

/-- An outcome that leaves the disk as it is; the notes come before the messages on the error stream. -/
def finish (i : Invocation) (s : Session) (code : Nat) (output : String) (log : List LogLine)
    (messages : List String) : Outcome where
  exitCode := code
  output
  errors := lineText ((LogLine.shown i.verbose log).map LogLine.text ++ messages)
  disk := s.disk
  gitCalls := []

/-- The exit code of a run that could not check anything. -/
def refusedCode : Nat := 2

/-- The outcome of a run that could not check anything. -/
def refuse (i : Invocation) (s : Session) (log : List LogLine) (reason : String) : Outcome :=
  i.finish s refusedCode "" log [s!"Error: {reason}"]

/-- The note about the configuration. -/
def configLog (i : Invocation) (s : Session) (c : Config) : List LogLine :=
  Config.resolveLog (i.root s) c

/-- The outcome of a check. -/
def check (i : Invocation) (s : Session) (d : Display) (c : Config) (log : List LogLine)
    (items : List CheckItem) (skipped : Nat) : Outcome :=
  let report := c.report items skipped
  i.finish s (report.exitCode d.failOnWarn) (printed (report.render (d.format.getD s.format)))
    (log ++ c.runLog items) []

/-- The outcome of a check of the current branch, by what git tells. -/
def currentBranch (i : Invocation) (s : Session) (c : Config) (allowDetached : Bool) (d : Display) :
    Outcome :=
  let answer := s.git Git.branchCall
  match Git.currentBranch answer with
  | .ok name => i.check s d c (i.configLog s c) [Config.branchItem name] 0
  | .error fault =>
    let log := i.configLog s c ++ Git.faultLog Git.branchCall answer fault
    if allowDetached && fault = .detached then
      i.finish s 0 "" log ["HEAD is detached; skipping branch check."]
    else i.refuse s log fault.message

/-- The outcome of a check of a branch name, by default the current branch. -/
def branch (i : Invocation) (s : Session) (c : Config) (name : Option String) (allowDetached : Bool)
    (d : Display) : Outcome :=
  match name with
  | some n => i.check s d c (i.configLog s c) [Config.branchItem n] 0
  | none => { i.currentBranch s c allowDetached d with gitCalls := [Git.branchCall] }

/-- The message in a commit message file. -/
def messageIn (disk : Disk) (file : Path) : Except FileFault String :=
  match disk.read file with
  | .error f => .error (.disk f)
  | .ok none => .error .undecodable
  | .ok (some text) => .ok (Commit.stripMessage text)

/-- The outcome of a check of a commit message, or of the message in a file. -/
def commit (i : Invocation) (s : Session) (c : Config) (message : String) (file : Option Path)
    (d : Display) : Except Crash Outcome :=
  match file with
  | none => .ok (i.check s d c (i.configLog s c) [Config.commitItem message none] 0)
  | some p =>
    match messageIn s.disk p with
    | .error f => .error (.file f)
    | .ok m => .ok (i.check s d c (i.configLog s c) [Config.commitItem m (some p.text)] 0)

/-- The paths in the input: one a line, without the blanks around it. -/
def listedPaths (input : String) : List String :=
  (((Text.splitOn '\n' (Text.unifyNewlines input.toList)).map Text.trim).filter (· ≠ [])).map
    String.ofList

/-- The outcome of a check of the files of the project. -/
def files (i : Invocation) (s : Session) (c : Config) (identifiers : Bool) (d : Display)
    (paths : List String) : Outcome :=
  let (items, skipped) := c.projectItems s.disk (i.root s) paths identifiers
  i.check s d c (i.configLog s c ++ c.projectLog s.disk (i.root s) paths identifiers) items skipped

/-- The outcome of a check of the files that git knows. -/
def trackedFiles (i : Invocation) (s : Session) (c : Config) (identifiers : Bool) (d : Display) :
    Outcome :=
  let answer := s.git Git.filesCall
  match Git.trackedFiles answer with
  | .ok paths => i.files s c identifiers d paths
  | .error fault =>
    i.refuse s (i.configLog s c ++ Git.faultLog Git.filesCall answer fault) fault.message

/-- The outcome of a check of the files in the input, or of the files that git knows. -/
def tree (i : Invocation) (s : Session) (c : Config) (identifiers listed : Bool) (d : Display) :
    Outcome :=
  if listed then i.files s c identifiers d (listedPaths s.input)
  else { i.trackedFiles s c identifiers d with gitCalls := [Git.filesCall] }

/-- The outcome of a listing of the rules. -/
def rules (i : Invocation) (s : Session) (c : Config) (asJson : Bool) : Except Crash Outcome :=
  if asJson then .ok (i.finish s 0 (printed c.ruleSet.listingJson.render) (i.configLog s c) [])
  else
    match (c.ruleSet.listingTable (c.source.getD "built-in defaults")).render with
    | .error f => .error (.listing f)
    | .ok table => .ok (i.finish s 0 table (i.configLog s c) [])

/-- The outcome of an action on the hook of the project. -/
def hooks (i : Invocation) (s : Session) (a : HookAction) : Except Crash Outcome :=
  match Hook.run s.disk s.user (i.root s) a with
  | .error f => .error (.file f)
  | .ok (result, disk) =>
    let line := result.message
    .ok { exitCode := result.exitCode
          output := if result.exitCode = 0 then printed line else ""
          errors := if result.exitCode = 0 then "" else printed line
          disk
          gitCalls := [] }

/-- The outcome of a command that needs the configuration. -/
def withConfig (i : Invocation) (s : Session) (k : Config → Except Crash Outcome) :
    Except Crash Outcome :=
  match Config.resolve s.disk (i.root s) i.config with
  | .ok c => k c
  | .error f => if f.isInternal then .error (.config f) else .ok (i.refuse s [] f.message)

/-- The outcome of an invocation. -/
def run (i : Invocation) (s : Session) : Except Crash Outcome :=
  match i.command with
  | .branch name allowDetached d => i.withConfig s fun c => .ok (i.branch s c name allowDetached d)
  | .commit none none _ => .ok (i.refuse s [] "provide a MESSAGE or --file.")
  | .commit message file d => i.withConfig s fun c => i.commit s c (message.getD "") file d
  | .identifier names kind d => i.withConfig s fun c =>
    .ok (i.check s d c (i.configLog s c) (names.map (Config.identifierItem kind)) 0)
  | .path paths kind applyIgnore d => i.withConfig s fun c =>
    let (items, skipped) := c.pathItems kind applyIgnore paths
    .ok (i.check s d c (i.configLog s c) items skipped)
  | .tree identifiers listed d => i.withConfig s fun c => .ok (i.tree s c identifiers listed d)
  | .rules asJson => i.withConfig s fun c => i.rules s c asJson
  | .hooks a => i.hooks s a

end Invocation

end Conventions.CommandLine
