import TextMigration.Disk.Basic

/-!
Saving a file so that it is either written as a whole or left as it was. The bytes go to a new file with
a name of its own beside the target, which then takes the target's place in one step. Each step may be
refused; whatever the new file was, it is then removed.
-/

namespace TextMigration.Disk

inductive SaveStep where
  | create
  | write
  | sync
  | rename
deriving DecidableEq, Repr

/-- The steps that the system refuses for reasons that do not lie in the disk. -/
abbrev Refusals := SaveStep → Option Fault

def noRefusals : Refusals := fun _ => none

def savingDirectory (path : Path) : Path :=
  match path.parent? with
  | some parent => if parent.text.isEmpty then Path.ofString "." else parent
  | none => Path.ofString "."

def longest (disk : Disk) : Nat :=
  ((disk.entries.flatMap Prod.fst).map List.length).foldr max 0

/-- A name that nothing on the disk has: it is longer than all that there are. -/
def freshName (disk : Disk) : Text := ".tmp".toList ++ List.replicate disk.longest 'x'

/-- The place of the target of a rename. Its directory must be there, and the name must be a name. -/
def renameTarget (disk : Disk) (path : Path) : Except Fault Place := do
  usable path
  let pieces := (path.pieces.reverse.dropWhile List.isEmpty).reverse
  let directory ← disk.walk (disk.start path) pieces.dropLast
  match pieces.getLast? with
  | none => throw .busy
  | some name =>
    let _ ← disk.step directory []
    if name = ['.'] ∨ name = Path.upName then throw .busy
    if longestName < Text.byteLength name then throw .nameTooLong
    if path.text.getLast? = some '/' then throw .notDirectory
    let place := directory ++ [name]
    if disk.at? place = some .directory then throw .isDirectory
    return place

def allowed (refusals : Refusals) (step : SaveStep) : Except Fault Unit :=
  match refusals step with
  | some fault => .error fault
  | none => .ok ()

def create (disk : Disk) (refusals : Refusals) (path : Path) : Except Fault (Place × Disk) := do
  allowed refusals .create
  match ← disk.find (savingDirectory path) with
  | (_, .file _) => throw .notDirectory
  | (directory, .directory) =>
    let place := directory ++ [disk.freshName]
    return (place, disk.put place (.file []))

def rename (disk : Disk) (refusals : Refusals) (place : Place) (bytes : List UInt8) (path : Path) :
    Except Fault Disk := do
  allowed refusals .rename
  let target ← disk.renameTarget path
  return (disk.remove place).put target (.file bytes)

def save (disk : Disk) (refusals : Refusals) (path : Path) (bytes : List UInt8) :
    Disk × Option Fault :=
  match disk.create refusals path with
  | .error fault => (disk, some fault)
  | .ok (place, created) =>
    -- A refused step leaves the new file behind, and it is removed.
    match allowed refusals .write with
    | .error fault => (created.remove place, some fault)
    | .ok () =>
      let written := created.put place (.file bytes)
      match allowed refusals .sync with
      | .error fault => (written.remove place, some fault)
      | .ok () =>
        match written.rename refusals place bytes path with
        | .error fault => (written.remove place, some fault)
        | .ok renamed => (renamed, none)

end TextMigration.Disk
