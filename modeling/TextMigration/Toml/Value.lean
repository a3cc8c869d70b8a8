import TextMigration.Number.Binary64
import TextMigration.Text.Basic

/-!
The values that a TOML document holds. A table keeps its keys in the order in which they were added and
remembers how it came to be, because that decides who may add to it later.
-/

namespace TextMigration.Toml

inductive Real where
  | finite (value : SignedBinary64)
  | infinite (negative : Bool)
  | notANumber
deriving DecidableEq, Repr

inductive Form where
  /-- By a header of its own. -/
  | headed
  /-- On the way to a deeper header. -/
  | implied
  /-- On the way to a dotted key. -/
  | dotted
  /-- Between braces. -/
  | braced
deriving DecidableEq, Repr

inductive Value where
  | text (text : Text)
  | integer (value : Int)
  | real (value : Real)
  | truth (value : Bool)
  | moment (text : Text)
  | list (items : List Value)
  /-- The tables that headers in double brackets make. -/
  | tables (items : List Value)
  | table (form : Form) (entries : List (Text × Value))
deriving Repr

abbrev Entries := List (Text × Value)

namespace Entries

def get? (entries : Entries) (key : Text) : Option Value := List.lookup key entries

def add (entries : Entries) (key : Text) (value : Value) : Entries := entries ++ [(key, value)]

def set (entries : Entries) (key : Text) (value : Value) : Entries :=
  entries.map fun entry => if entry.1 = key then (key, value) else entry

def erase (entries : Entries) (key : Text) : Entries := entries.filter fun entry => entry.1 ≠ key

end Entries

end TextMigration.Toml
