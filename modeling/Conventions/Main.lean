import Conventions.CommandLine.Help
import Conventions.CommandLine.Outcome

/-!
# Program

Reads the working directory, runs what the command line asks for, and writes what the run leaves behind.
It does not start git, so a command that needs an answer of git says that git cannot be run.
-/

namespace Conventions.CommandLine

/-- How many directories may lie in one another. -/
def depthLimit : Nat := 64

/-- The file or directory that an entry of a directory stands for; links to directories are not followed. -/
def nodeOf (e : IO.FS.DirEntry) : IO DiskNode := do
  if ← e.path.isDir then return .directory
  try
    return .file (String.fromUTF8? (← IO.FS.readBinFile e.path)) Hook.newMode
  catch _ =>
    return .file none 0

/-- What entries of the directory at a place stand for, with what lies below them, up to a depth. -/
def nodesAt : Nat → List String → List IO.FS.DirEntry → IO (List (List String × DiskNode))
  | 0, _, _ => return []
  | depth + 1, place, entries => do
    let mut found := []
    for e in entries do
      let here := place ++ [e.fileName]
      found := (here, ← nodeOf e) :: found
      if (← e.path.symlinkMetadata).type matches .dir then
        found := (← nodesAt depth here (← e.path.readDir).toList) ++ found
    return found

/-- The working directory and what lies below it. -/
def readDisk : IO Disk := do
  let here ← IO.currentDir
  let cwd := Path.parse here.toString
  return ⟨cwd, ← nodesAt depthLimit cwd.parts (← here.readDir).toList⟩

/-- Everything on the standard input. -/
def readInput : IO String := do
  let stdin ← IO.getStdin
  let mut lines := #[]
  repeat
    let line ← stdin.getLine
    if line.isEmpty then break
    lines := lines.push line
  return String.join lines.toList

/-- The rights to read, write and execute in three bits. -/
def rights (bits : Nat) : IO.AccessRight where
  read := bits.testBit 2
  write := bits.testBit 1
  execution := bits.testBit 0

/-- Writes the file at a place. -/
def writeNode (place : List String) : DiskNode → IO Unit
  | .file (some text) mode => do
    let path := (Path.mk "/" place).text
    IO.FS.writeFile path text
    IO.setAccessRights path ⟨rights (mode / 64), rights (mode / 8), rights mode⟩
  | _ => return

/-- Writes the files that changed, and deletes those that are gone. -/
def writeChanges (before after : Disk) : IO Unit := do
  for (place, node) in after.nodes do
    if Entries.get? place before.nodes ≠ some node then writeNode place node
  for (place, _) in before.nodes do
    if (after.at? place).isNone then IO.FS.removeFile (Path.mk "/" place).text

/-- Carries out an invocation. -/
def carryOut (disk : Disk) (i : Invocation) : IO UInt32 := do
  let stdout ← IO.getStdout
  let input ← match i.command with
    | .tree _ true _ => readInput
    | _ => pure ""
  let format := if ← stdout.isTty then ReportFormat.rich else .porcelain
  match i.run ⟨disk, .owner, fun _ => .missing, input, format⟩ with
  | .error c =>
    IO.eprintln s!"Error: {c.message}"
    return Crash.exitCode.toUInt32
  | .ok o =>
    if i.command matches .hooks _ then writeChanges disk o.disk
    IO.eprint o.errors
    stdout.putStr o.output
    return o.exitCode.toUInt32

end Conventions.CommandLine

open Conventions CommandLine in
/-- Reads the command line and does what it asks for. -/
def main (args : List String) : IO UInt32 := do
  let disk ← readDisk
  match Wish.read disk args with
  | .error f =>
    IO.eprintln s!"Error: {f.message}"
    return UsageFault.exitCode.toUInt32
  | .ok .version =>
    IO.print versionText
    return 0
  | .ok (.help c) =>
    IO.print (helpText c)
    return 0
  | .ok (.run i) => carryOut disk i
