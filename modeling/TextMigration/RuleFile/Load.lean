import TextMigration.Disk.Access
import TextMigration.RuleFile.Build

/-!
Rule sets from text and from files, and why they could not be had. A set that has no name of its own is
called after its file.
-/

namespace TextMigration

/-- Why there is no rule set. The path is that of the file, if there was one, or of a directory that is not
listed. -/
inductive LoadError where
  | unread (path : Path) (reason : Text)
  | notToml (path : Option Path)
  | mismatch (path : Option Path) (mismatch : RuleFile.Mismatch)
  | invalid (path : Option Path) (issues : List Issue)
  | unknown (name : Text) (searched : List Path)

namespace LoadError

def place : Option Path → Text
  | some path => " (".toList ++ path.text ++ [')']
  | none => []

def display : LoadError → Text
  | unread path reason =>
    "failed to read rule set from ".toList ++ path.text ++ [':', ' '] ++ reason
  | notToml path => "failed to parse rule set TOML".toList ++ place path ++ ": invalid TOML".toList
  | mismatch path found =>
    "failed to parse rule set TOML".toList ++ place path ++ [':', ' '] ++ found.message
  | invalid path issues =>
    "invalid rule set".toList ++ place path ++ [':', '\n'] ++ Issue.displayAll issues
  | unknown name searched =>
    s!"unknown rule set '{name.str}' (not a file, not built in".toList ++
      searched.flatMap (fun directory => ", not in ".toList ++ directory.text) ++ [')']

def cause? : LoadError → Option Text
  | unread _ reason => some reason
  | notToml _ => some "invalid TOML".toList
  | mismatch _ found => some found.message
  | invalid _ issues => some (Issue.displayAll issues)
  | unknown _ _ => none

def ofFile (path : Path) : LoadError → LoadError
  | notToml none => notToml (some path)
  | mismatch none found => mismatch (some path) found
  | invalid none issues => invalid (some path) issues
  | error => error

end LoadError

namespace RuleFile

def inlineName : Text := "inline".toList

def parse (text : Text) : Except LoadError RuleFile :=
  match Toml.document? text with
  | none => .error (.notToml none)
  | some document =>
    match ofEntries document with
    | .ok file => .ok file
    | .error mismatch => .error (.mismatch none mismatch)

def loadNamed (name text : Text) : Except LoadError RuleSet := do
  match (← parse text).build name with
  | .ok set => return set
  | .error issues => throw (.invalid none issues)

def load (text : Text) : Except LoadError RuleSet := loadNamed inlineName text

def readText (access : Access) (path : Path) : Except Text Text :=
  match access.read path with
  | .error reason => .error reason
  | .ok bytes =>
    match Text.decode bytes with
    | .ok text => .ok text
    | .error _ => .error "stream did not contain valid UTF-8".toList

def loadFile (access : Access) (path : Path) : Except LoadError RuleSet :=
  match readText access path with
  | .error reason => .error (.unread path reason)
  | .ok text =>
    match loadNamed (path.stem?.getD inlineName) text with
    | .ok set => .ok set
    | .error error => .error (error.ofFile path)

end RuleFile

end TextMigration
