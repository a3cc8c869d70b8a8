import TextMigration.Number.Shortest
import TextMigration.Text.Quoted
import TextMigration.Toml.Value

/-!
How a document that is TOML can fail to be a rule file: a value of the wrong kind, a choice that there is
not, a field too few. Messages name a value by its kind and, where it is short, by what it says.
-/

namespace TextMigration

namespace Toml

def Real.display : Real → Text
  | .finite value => value.positional
  | .infinite negative => if negative then "-inf".toList else "inf".toList
  | .notANumber => "NaN".toList

namespace Value

def describe : Value → Text
  | .text content => "string ".toList ++ content.quoted
  | integer value => s!"integer `{value}`".toList
  | real value => "floating point `".toList ++ value.display ++ ['`']
  | truth value => s!"boolean `{value}`".toList
  | moment _ | table _ _ => "map".toList
  | list _ | tables _ => "sequence".toList

def kind : Value → String
  | text _ => "string"
  | integer _ => "integer"
  | real _ => "float"
  | truth _ => "boolean"
  | moment _ => "datetime"
  | list _ => "array"
  | tables _ => "array of tables"
  | table .braced _ => "inline table"
  | table _ _ => "table"

end Value

end Toml

namespace RuleFile

inductive Mismatch where
  | missingField (name : String)
  | wrongType (found : Toml.Value) (expected : String)
  | unknownChoice (found : Text) (choices : List String)
  /-- A choice that needs a value stands without one. -/
  | bareChoice
  /-- A choice that takes no value stands with one. -/
  | filledChoice
  /-- A choice that takes no value stands over tables with double brackets. -/
  | repeatedChoice
  | choiceNotTable (found : Toml.Value)
  | neitherTextNorTable
  | noChoice
  | severalChoices
  | tooShort (length : Nat) (expected : String)
  | tooLong (length expected : Nat)
deriving Repr

namespace Mismatch

def elements (count : Nat) : String := if count = 1 then "1 element" else s!"{count} elements"

def listed (choices : List String) : String :=
  let quoted := choices.map fun name => "`" ++ name ++ "`"
  match quoted with
  | [first, second] => s!"{first} or {second}"
  | _ => "one of " ++ ", ".intercalate quoted

def message : Mismatch → Text
  | missingField name => s!"missing field `{name}`".toList
  | wrongType found expected => s!"invalid type: {found.describe.str}, expected {expected}".toList
  | unknownChoice found choices =>
    s!"unknown variant `{found.str}`, expected {listed choices}".toList
  | bareChoice => "invalid type: unit variant, expected newtype variant".toList
  | filledChoice => "expected empty table".toList
  | repeatedChoice => "expected empty array".toList
  | choiceNotTable found => s!"expected table, found {found.kind}".toList
  | neitherTextNorTable => "wanted string or table".toList
  | noChoice => "wanted exactly 1 element, found 0 elements".toList
  | severalChoices => "wanted exactly 1 element, more than 1 element".toList
  | tooShort length expected => s!"invalid length {length}, expected {expected}".toList
  | tooLong length expected =>
    s!"invalid length {length}, expected {elements expected} in sequence".toList

end Mismatch

end RuleFile

end TextMigration
