import TextMigration.RuleFile.Mismatch

/-!
Reading the parts of a rule file from TOML values. The first problem in the order of the document is the
one that is reported; what is missing is noticed only after what is there.
-/

namespace TextMigration.RuleFile

open Toml (Value)

abbrev Decoded := Except Mismatch

namespace Decode

def text : Value → Decoded Text
  | .text text => .ok text
  | value => .error (.wrongType value "a string")

def truth : Value → Decoded Bool
  | .truth value => .ok value
  | value => .error (.wrongType value "a boolean")

def items : Value → Decoded (List Value)
  | .list items | .tables items => .ok items
  | value => .error (.wrongType value "a sequence")

/-- The key under which a moment stands, where a table is wanted. -/
def momentKey : Text := "$__toml_private_datetime".toList

def entries? : Value → Option Toml.Entries
  | .table _ entries => some entries
  | .moment text => some [(momentKey, .text text)]
  | _ => none

def entries (expected : String) (value : Value) : Decoded Toml.Entries :=
  match entries? value with
  | some entries => .ok entries
  | none => .error (.wrongType value expected)

def choice {α : Type} (choices : List (String × α)) (name : Text) : Decoded α :=
  match choices.find? fun known => known.1.toList = name with
  | some (_, found) => .ok found
  | none => .error (.unknownChoice name (choices.map Prod.fst))

def single : Toml.Entries → Decoded (Text × Value)
  | [] => .error .noChoice
  | [entry] => .ok entry
  | _ => .error .severalChoices

/-- A choice that takes no value: its name, or a table with the name over an empty table or array. -/
def plainChoice {α : Type} (choices : List (String × α)) : Value → Decoded α
  | .text name => choice choices name
  | .table _ entries => do
    let (name, value) ← single entries
    let found ← choice choices name
    match value with
    | .table _ [] | .list [] | .tables [] => return found
    | .table _ _ | .list _ => throw .filledChoice
    | .tables _ => throw .repeatedChoice
    | value => throw (.choiceNotTable value)
  | _ => .error .neitherTextNorTable

def textChoice {α : Type} (choices : List (String × (Text → α))) : Value → Decoded α
  | .text name => do
    let _ ← choice choices name
    throw .bareChoice
  | .table _ entries => do
    let (name, value) ← single entries
    let found ← choice choices name
    return found (← text value)
  | _ => .error .neitherTextNorTable

/-- The fields of a record, and what to say when one is missing. A table gives them by name; an array
gives them by place. -/
structure Fields where
  entries : Toml.Entries
  missing : Nat → String → Mismatch

def byPlace (record : String) (names : List String) (items : List Value) : Fields where
  entries := (names.map String.toList).zip items
  missing place _ := .tooShort place s!"{record} with {Mismatch.elements names.length}"

def byName (entries : Toml.Entries) : Fields where
  entries
  missing _ name := .missingField name

def fields (record : String) (names : List String) (value : Value) : Decoded Fields :=
  match entries? value, value with
  | some entries, _ => .ok (byName entries)
  | none, .list items | none, .tables items => .ok (byPlace record names items)
  | none, _ => .error (.wrongType value record)

def need {α : Type} (fields : Fields) (place : Nat) (name : String) (value : Option α) : Decoded α :=
  match value with
  | some value => .ok value
  | none => .error (fields.missing place name)

end Decode

end TextMigration.RuleFile
