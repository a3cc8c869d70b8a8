import TextMigration.Path
import TextMigration.Text.Utf8

/-!
A disk: the files and directories there are, each at its place under the root, and the directory that
relative paths start from. A listing has no order of its own. There are no links, so a place has one
path of names.
-/

namespace TextMigration

inductive Disk.Fault where
  | notFound
  | notDirectory
  | isDirectory
  | busy
  | nameTooLong
  | nulInPath
  | other (reason : Text)
deriving DecidableEq, Repr

inductive Disk.Entry where
  | file (bytes : List UInt8)
  | directory
deriving DecidableEq, Repr

abbrev Disk.Place := List Text

structure Disk where
  entries : List (Disk.Place × Disk.Entry)
  /-- The directory that relative paths start from. -/
  current : Disk.Place
deriving DecidableEq, Repr

namespace Disk

namespace Fault

def message : Fault → Text
  | notFound => "No such file or directory (os error 2)".toList
  | notDirectory => "Not a directory (os error 20)".toList
  | isDirectory => "Is a directory (os error 21)".toList
  | busy => "Device or resource busy (os error 16)".toList
  | nameTooLong => "File name too long (os error 36)".toList
  | nulInPath => "file name contained an unexpected NUL byte".toList
  | other reason => reason

end Fault

/-- What is at a place. The root is always a directory. -/
def at? (disk : Disk) (place : Place) : Option Entry :=
  if place.isEmpty then some .directory else disk.entries.lookup place

def longestName : Nat := 255

def longestPath : Nat := 4095

def usable (path : Path) : Except Fault Unit :=
  if path.text.contains ['\x00'] then .error .nulInPath
  else if path.text.isEmpty then .error .notFound
  else if longestPath < path.text.byteLength then .error .nameTooLong
  else .ok ()

def step (disk : Disk) (place : Place) (piece : Text) : Except Fault Place :=
  match disk.at? place with
  | none => .error .notFound
  | some (.file _) => .error .notDirectory
  | some .directory =>
    if piece = [] ∨ piece = ['.'] then .ok place
    else if piece = Path.upName then .ok place.dropLast
    else if longestName < Text.byteLength piece then .error .nameTooLong
    else .ok (place ++ [piece])

/-- The place that pieces of a path lead to. What is there may be missing; what is on the way may not. -/
def walk (disk : Disk) (place : Place) (pieces : List Text) : Except Fault Place :=
  pieces.foldlM disk.step place

def start (disk : Disk) (path : Path) : Place := if path.isAbsolute then [] else disk.current

def find (disk : Disk) (path : Path) : Except Fault (Place × Entry) := do
  usable path
  let place ← disk.walk (disk.start path) path.pieces
  match disk.at? place with
  | some entry => return (place, entry)
  | none => throw .notFound

def isFile (disk : Disk) (path : Path) : Bool :=
  match disk.find path with
  | .ok (_, .file _) => true
  | _ => false

def isDirectory (disk : Disk) (path : Path) : Bool :=
  match disk.find path with
  | .ok (_, .directory) => true
  | _ => false

def read (disk : Disk) (path : Path) : Except Fault (List UInt8) := do
  match ← disk.find path with
  | (_, .file bytes) => return bytes
  | (_, .directory) => throw .isDirectory

def namesIn (disk : Disk) (directory : Place) : List (Text × Entry) :=
  disk.entries.filterMap fun (place, entry) =>
    match place.getLast? with
    | some name => if place.dropLast = directory then some (name, entry) else none
    | none => none

def filesIn (disk : Disk) (path : Path) : List Text :=
  match disk.find path with
  | .ok (place, .directory) => (disk.namesIn place).filterMap fun (name, entry) =>
    match entry with
    | .file _ => some name
    | .directory => none
  | _ => []

def put (disk : Disk) (place : Place) (entry : Entry) : Disk :=
  { disk with entries := (place, entry) :: disk.entries.filter fun known => known.1 ≠ place }

def remove (disk : Disk) (place : Place) : Disk :=
  { disk with entries := disk.entries.filter fun known => known.1 ≠ place }

end Disk

end TextMigration
