import TextMigration.CommandLine.Run

/-!
The program. It takes a picture of the part of the disk that the arguments speak of, runs the command on
the picture, and then saves the target if the command did so in the picture.
-/

namespace TextMigration.Main

def placesAlong (start : Disk.Place) : List Text → List Disk.Place
  | [] => []
  | piece :: rest =>
    let next :=
      if piece.isEmpty ∨ piece = ['.'] then start
      else if piece = Path.upName then start.dropLast
      else start ++ [piece]
    next :: placesAlong next rest

def absolute (place : Disk.Place) : String :=
  Text.str ('/' :: List.intercalate ['/'] place)

def observe (disk : Disk) (place : Disk.Place) : IO Disk := do
  let path := (← IO.currentDir) / absolute place
  if ← path.isDir then return disk.put place .directory
  else if ← path.pathExists then
    return disk.put place (.file (← IO.FS.readBinFile path).toList)
  else return disk

def observePath (disk : Disk) (path : Path) : IO Disk :=
  (placesAlong (disk.start path) path.pieces).foldlM observe disk

def observeDirectory (disk : Disk) (directory : Path) : IO Disk := do
  let disk ← observePath disk directory
  match disk.find directory with
  | .ok (place, .directory) =>
    let names ← ((← IO.currentDir) / absolute place).readDir
    names.toList.foldlM (fun disk entry => observe disk (place ++ [entry.fileName.toList])) disk
  | _ => return disk

def subjects (disk : Disk) : CommandLine.Command → List Path × List Path
  | .apply target ruleSet _ _ _ | .check target ruleSet _ =>
    ([target, ⟨ruleSet⟩, Disk.savingDirectory target], CommandLine.searched disk (some target))
  | .list => ([], CommandLine.searched disk none)

def picture (arguments : List Text) : IO Disk := do
  let here := (← IO.currentDir).toString
  let current := (Path.ofString here).pieces.filter fun piece => !piece.isEmpty
  let disk ← (placesAlong [] current).foldlM observe (⟨[], current⟩ : Disk)
  match CommandLine.Arguments.read arguments {} with
  | .error _ => return disk
  | .ok command =>
    let (paths, directories) := subjects disk command
    let disk ← paths.foldlM observePath disk
    directories.foldlM observeDirectory disk

def keep (before after : Disk) (arguments : List Text) : IO Unit := do
  match CommandLine.Arguments.read arguments {} with
  | .ok (.apply target _ _ _ _) =>
    match before.read target, after.read target, after.find target with
    | .ok old, .ok new, .ok (place, _) =>
      if old != new then
        let beside := absolute (place.dropLast ++ [before.freshName])
        IO.FS.writeBinFile beside ⟨new.toArray⟩
        IO.FS.rename beside (absolute place)
    | _, _, _ => return
  | _ => return

def showsColors : IO Bool := do
  let isOn (value : Option String) : Bool := (value.map (· != "0")).getD false
  if isOn (← IO.getEnv "CLICOLOR_FORCE") then return true
  if (← IO.getEnv "NO_COLOR").isSome then return false
  if (← IO.getEnv "CLICOLOR") == some "0" then return false
  (← IO.getStdout).isTty

end TextMigration.Main

open TextMigration in
def main (arguments : List String) : IO UInt32 := do
  let arguments := arguments.map String.toList
  let before ← Main.picture arguments
  let ending := CommandLine.run (← Main.showsColors) before arguments
  Main.keep before ending.disk arguments
  (← IO.getStdout).putStr (ending.output.on .out).str
  (← IO.getStderr).putStr (ending.output.on .err).str
  return ending.code.toUInt32
