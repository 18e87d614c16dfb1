import SpiceKit.Cli.Run
import SpiceKit.Cli.Screen

/-!
# The command-line program

The thin layer around `Cli.execute`. It copies the part of the disk that a command line speaks of
into a `Disk`, runs the command on that, shows what is to be shown, and writes back the files that
changed. When the command needs an answer, one more line is typed and the command is run again from
the start with it, which changes nothing that was already shown.

This program starts no tools itself: every launch is refused.
-/

set_option autoImplicit false

namespace SpiceKit
namespace Shell

def namesOf (place : String) : List (List Char) := (Path.ofString place).names

def placeText (names : List (List Char)) : String := String.ofList ('/' :: Path.joinNames names)

partial def readNode (names : List (List Char)) : IO (Option Node) := do
  let top ← IO.currentDir
  let place := top / placeText names
  if ← place.isDir then
    let mut entries : List (List Char × Node) := []
    for entry in ← place.readDir do
      let name := entry.fileName.toList
      if let some node ← readNode (names ++ [name]) then
        entries := Node.putEntry name node entries
    return some (.folder entries)
  else if ← place.pathExists then
    return some (.file (← IO.FS.readBinFile place).toList)
  else return none

/-- Notes what stands at a place, a folder without what is in it. -/
def noteAt (disk : Disk) (names : List (List Char)) : IO Disk := do
  if (disk.tree.get? names).isSome then return disk
  let place := (← IO.currentDir) / placeText names
  if ← place.isDir then
    return { disk with tree := disk.tree.graft names .emptyFolder }
  else if ← place.pathExists then
    let bytes := (← IO.FS.readBinFile place).toList
    return { disk with tree := disk.tree.graft names (.file bytes) }
  else return disk

def noteAlong (disk : Disk) (path : Path) : IO Disk := do
  let mut disk ← noteAt disk (disk.origin path)
  let mut place := disk.origin path
  for name in path.names do
    place := if name = ['.', '.'] then place.dropLast else place ++ [name]
    disk ← noteAt disk place
  return disk

def noteBelow (disk : Disk) (path : Path) : IO Disk := do
  let disk ← noteAlong disk path
  let place := disk.lexicalPlace path
  match ← readNode place with
  | some node => return { disk with tree := disk.tree.graft place node }
  | none => return disk

/-- The paths that an invocation may write to: its settings file and its source file. -/
def writable (usual : Path) (invocation : Cli.Invocation) : List Path :=
  let settings := (invocation.settings.map Path.ofString).getD usual
  match invocation.command with
  | .outline file _ => [settings, Path.ofString file]
  | .lint _ _ => [settings]
  | .definition file _ _ => [settings, Path.ofString file]
  | .compile file _ => [settings, Path.ofString file]
  | .run file _ => [settings, Path.ofString file]
  | .check file => [settings, Path.ofString file]
  | .restoreWarning => [settings]

/-- The part of the disk that an invocation speaks of. -/
def loadDisk (usual : Path) (invocation : Cli.Invocation) : IO Disk := do
  let here := namesOf (← IO.currentDir).toString
  let mut disk : Disk := { tree := Node.emptyFolder.graft here .emptyFolder, here := here }
  for path in writable usual invocation do
    disk ← noteAlong disk path
  match invocation.command with
  | .lint path _ => noteBelow disk (Path.ofString path)
  | _ => return disk

def writeBack (before after : Disk) (path : Path) : IO Unit := do
  let place := after.lexicalPlace path
  match after.tree.get? place, before.tree.get? place with
  | some (.file bytes), old =>
    let same := match old with
      | some (.file earlier) => earlier == bytes
      | _ => false
    unless same do
      let top ← IO.currentDir
      IO.FS.createDirAll (top / placeText place.dropLast)
      IO.FS.writeBinFile (top / placeText place) ⟨bytes.toArray⟩
  | _, _ => return ()

/-- Runs an invocation, typing one more line each time one is needed. -/
partial def converse (usual : Path) (invocation : Cli.Invocation) (disk : Disk)
    (typed : List (List Char)) (seen : Nat) : IO (Except Fault Int × Workplace) := do
  let place : Workplace := {
    disk := disk, store := { keeper := .memory {} }, tools := .refused .denied
    console := { input := typed } }
  let (result, after) := StateT.run (ExceptT.run (Cli.invoke Cli.standard usual invocation)) place
  let stdout ← IO.getStdout
  for display in after.console.shown.drop seen do
    stdout.putStr (Cli.plainText display)
  stdout.flush
  match result with
  | .error .endOfInput =>
    let line ← (← IO.getStdin).getLine
    if line.isEmpty then return (result, after)
    else
      let typed := typed ++ Console.linesOf line.toList
      converse usual invocation disk typed after.console.shown.length
  | _ => return (result, after)

end Shell
end SpiceKit

open SpiceKit in
def main (arguments : List String) : IO UInt32 := do
  let home := (← IO.getEnv "HOME").getD ""
  let usual := ((Path.ofString home).child ".spice".toList).child "settings.json".toList
  match Cli.Invocation.read? arguments with
  | none =>
    IO.eprintln "usage: spice-analyzer [--settings FILE] [--compiler-path PROGRAM] COMMAND ..."
    return 2
  | some invocation =>
    let disk ← Shell.loadDisk usual invocation
    let (result, after) ← Shell.converse usual invocation disk [] 0
    for path in Shell.writable usual invocation do
      Shell.writeBack disk after.disk path
    for line in after.console.complaints do
      IO.eprintln line
    match result with
    | .ok status => return (status % 256).toNat.toUInt32
    | .error fault =>
      IO.eprintln fault.message
      return 1
