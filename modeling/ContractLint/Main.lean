import ContractLint.Command.Run
import ContractLint.History.Calendar
import Std.Time.DateTime.Timestamp

/-!
# The program

Reads the files that a command needs into a tree, runs the command, prints what it says and
writes the history database back.  Symbolic links inside a directory are left out, because the
search does not follow them.
-/

namespace ContractLint.Program

/-- The octets of the file with a name, none if there is no such file. -/
def readOctets (name : String) : IO (Option (List Nat)) := do
  try
    let content ← IO.FS.readBinFile name
    return some (content.toList.map UInt8.toNat)
  catch _ => return none

/-- The file or directory with a name as a tree. -/
partial def load (name : String) : IO (Option FileTree) := do
  try
    let real ← IO.FS.realPath name
    if ← real.isDir then
      let mut entries := #[]
      for entry in ← real.readDir do
        if (← entry.path.symlinkMetadata).type != .symlink then
          if let some tree ← load entry.path.toString then
            entries := entries.push (entry.fileName, tree)
      return some (.directory entries.toList)
    else
      return (← readOctets name).map fun octets => .file (.ofOctets octets)
  catch _ => return none

/-- Whether a directory is on the disk under a name. -/
def isDirectory (name : String) : IO Bool := do
  try
    let real ← IO.FS.realPath name
    return ← real.isDir
  catch _ => return false

/-- The place of a file or directory on the disk. -/
def placeOf (name : String) : IO Place := do
  let real ← try IO.FS.realPath name catch _ => IO.currentDir.map (· / name)
  return (Path.ofString real.toString).parts

/-- The tree with what is on the disk under a name. -/
def loadInto (tree : FileTree) (name : String) : IO FileTree := do
  match ← load name with
  | some found => return Tree.put found (← placeOf name) tree
  | none => return tree

/-- The tree with the directories along a place that are on the disk, and a file that blocks the way
to it. -/
def loadWay (tree : FileTree) (place : Place) : IO FileTree := do
  let mut tree := tree
  for count in List.range place.length do
    let front := place.take count
    let name := toString (Tree.pathOf front)
    if (tree.get? front).isNone then
      if let some octets ← readOctets name then
        tree := Tree.put (.file (.octets octets)) front tree
      else if ← isDirectory name then
        tree := Tree.put (.directory []) front tree
  return tree

/-- The database that a command uses. -/
def databaseOf : Command → Option (Option Path)
  | .analyze options => options.saveFor.map fun _ => options.database
  | .rules => none
  | .history _ database => some database
  | .serve _ _ database => some database

/-- The target that a command reads. -/
def targetOf : Command → Option String
  | .analyze options => some options.target
  | .rules | .history _ _ | .serve _ _ _ => none

/-- The command with the links in its target resolved. -/
def resolveTarget (command : Command) : IO Command := do
  match command with
  | .analyze options =>
    let place ← placeOf (if options.target.isEmpty then "." else options.target)
    return .analyze { options with target := toString (Tree.pathOf place) }
  | other => return other

/-- Write the history database of a command to the disk. -/
def storeBack (world : World) (name : String) : IO Unit := do
  let place ← placeOf name
  if let some (.file (.database table)) := world.tree.get? place then
    IO.FS.createDirAll (toString (Tree.pathOf place.dropLast))
    IO.FS.writeFile (toString (Tree.pathOf place)) table.archive

/-- The world that a command works on. -/
def worldFor (command : Command) : IO World := do
  let environment : Environment :=
    { database := ← IO.getEnv "SMARTCHECK_DB", port := ← IO.getEnv "PORT" }
  let current := (Path.ofString (← IO.currentDir).toString).parts
  let now := (← Std.Time.Timestamp.now).toNanosecondsSinceUnixEpoch.val.toNat / 1000
  let columns := ((← IO.getEnv "COLUMNS").bind String.toNat?).getD 80
  let mut tree : FileTree := Tree.put (.directory []) current (.directory [])
  if let some target := targetOf command then
    tree ← loadInto tree target
  if let some database := databaseOf command then
    let name := toString (database.getD environment.databasePath)
    tree ← loadWay tree (← placeOf name)
    tree ← loadInto tree name
  return {
    tree, current, environment, columns
    directoryLimit := 900
    clock := { shows := fun reading => Calendar.write (now + reading) } }

/-- Run a command line. -/
def run (arguments : List String) : IO UInt32 := do
  match Command.read (arguments.map RawText.ofString) with
  | .error error =>
    IO.eprintln error.message
    return 2
  | .ok command =>
    let command ← resolveTarget command
    let (world, outcome) := command.run (← worldFor command)
    IO.print (String.ofList outcome.output)
    if let some database := databaseOf command then
      storeBack world (world.databaseText database)
    if let some complaint := outcome.complaint <|> outcome.breakdown.map Breakdown.message then
      IO.eprintln complaint.faceString
    if let some (host, port) := outcome.service then
      IO.eprintln ("No listener for " ++ host ++ ":" ++ toString port)
      return 1
    return UInt32.ofNat outcome.exitCode

end ContractLint.Program

/-- The entry point of the command line. -/
def main (arguments : List String) : IO UInt32 :=
  ContractLint.Program.run arguments
