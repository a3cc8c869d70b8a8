import TextMigration.RuleFile.Builtin
import TextMigration.RuleFile.Load

/-!
Finding a rule set by what the user calls it: a file at that path, else the first file of that name among
the rule files of some directories, else a built-in set. The first of these that exists is the one that
is meant; when it turns out to be wrong, nothing else is tried. A directory that the system does not list
ends the matter before any of its files or a built-in set is thought of.
-/

namespace TextMigration

inductive Origin where
  | file (path : Path)
  | builtin (name : Text)
deriving DecidableEq, Repr

namespace RuleFile

def nameLe (a b : Text) : Bool :=
  match a, b with
  | [], _ => true
  | _ :: _, [] => false
  | c :: a, d :: b => if c = d then nameLe a b else c.val < d.val

def fileExtension : Text := "toml".toList

def inDirectory (disk : Disk) (directory : Path) : List Path :=
  let paths := (disk.filesIn directory).mergeSort nameLe |>.map fun name => directory.join ⟨name⟩
  paths.filter fun path => path.extension? = some fileExtension

/-- The rule files directly inside directories. A directory that is not there has none. -/
def discover (disk : Disk) (directories : List Path) : List Path :=
  directories.flatMap (inDirectory disk)

def listed (access : Access) (directory : Path) : Except LoadError (List Path) :=
  if access.isDirectory directory then
    match access.refused .list directory with
    | some reason => .error (.unread directory reason)
    | none => .ok (inDirectory access.disk directory)
  else .ok []

/-- What is discovered where the system lists the directories. The first that it does not list ends it. -/
def search (access : Access) (directories : List Path) : Except LoadError (List Path) :=
  return (← directories.mapM (listed access)).flatten

def resolve (access : Access) (argument : Text) (directories : List Path) :
    Except LoadError (RuleSet × Origin) :=
  let path : Path := ⟨argument⟩
  if access.isFile path then (loadFile access path).map fun set => (set, .file path)
  else do
    let paths ← search access directories
    match paths.find? fun path => path.stem? = some argument with
    | some path => (loadFile access path).map fun set => (set, .file path)
    | none =>
      match Builtin.named? argument with
      | some builtin => builtin.load.map fun set => (set, .builtin builtin.name)
      | none => .error (.unknown argument directories)

end RuleFile

end TextMigration
