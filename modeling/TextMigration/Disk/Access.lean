import TextMigration.Disk.Basic

/-!
A disk as the system shows it. It may refuse to look a path up, to list a directory or to read a file, for
reasons that do not lie in the disk, such as whose it is.
-/

namespace TextMigration

inductive Request where
  | look
  | list
  | read
deriving DecidableEq, Repr

structure Access where
  disk : Disk
  refused : Request → Path → Option Text

namespace Access

def full (disk : Disk) : Access := ⟨disk, fun _ _ => none⟩

instance : Coe Disk Access := ⟨full⟩

def isFile (access : Access) (path : Path) : Bool :=
  (access.refused .look path).isNone && access.disk.isFile path

def isDirectory (access : Access) (path : Path) : Bool :=
  (access.refused .look path).isNone && access.disk.isDirectory path

def read (access : Access) (path : Path) : Except Text (List UInt8) :=
  match access.refused .read path with
  | some reason => .error reason
  | none => (access.disk.read path).mapError Disk.Fault.message

end Access

end TextMigration
