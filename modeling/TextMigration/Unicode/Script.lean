import TextMigration.Unicode.Extension
import TextMigration.Unicode.ScriptsFirst
import TextMigration.Unicode.ScriptsLast

/-!
Scripts: the one that a character is counted in, and those that it is used with. The second are the first
but for the characters that are listed apart.
-/

namespace TextMigration.Unicode

open Ranges (unionAll)

def scripts : NameTable := scriptsFirst ++ scriptsLast

def script (name : String) : Ranges := (scripts.find? name).getD []

def listedApart : Ranges := unionAll (scriptExtensions.map Prod.snd)

def usedWith? (name : String) : Option Ranges := do
  let (names, own) ← List.find? (fun entry : List String × Ranges => entry.1.contains name) scripts
  let listed := scriptExtensions.filter fun entry => entry.1.any names.contains
  return (own.difference listedApart).union (unionAll (listed.map Prod.snd))

end TextMigration.Unicode
