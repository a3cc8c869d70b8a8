import TextMigration.Expectation
import TextMigration.Rule
import TextMigration.RuleFile.Decode
import TextMigration.Toml.Document

/-!
What a rule file says, before any of it is checked against the rest: rules that refer to fragments by
name and to patterns by their source, and the texts that are expected in the end.
-/

namespace TextMigration.RuleFile

open Decode
open Toml (Value)

inductive Target where
  | exact (text : Text)
  | delimited (start stop : Text)
  | pattern (regex : Text)
deriving DecidableEq, Repr

inductive Source where
  | text (text : Text)
  | fragment (name : Text)
deriving DecidableEq, Repr

structure Definition where
  id : Text
  required : Bool
  scope : Scope
  placement : Placement
  whenText : Option Text
  unlessText : Option Text
  target : Target
  source : Source
deriving DecidableEq, Repr

namespace Target

def fieldNames : Target → List String
  | exact _ => ["text"]
  | delimited _ _ => ["start", "end"]
  | pattern _ => ["regex"]

def kinds : List (String × String × Target) :=
  [("exact", "Exact", .exact []), ("delimited", "Delimited", .delimited [] []),
    ("pattern", "Pattern", .pattern [])]

def withTexts (fields : Fields) : Target → List (Option Text) → Decoded Target
  | exact _, texts => return .exact (← need fields 0 "text" texts.head?.join)
  | delimited _ _, texts => do
    let start ← need fields 0 "start" texts.head?.join
    let stop ← need fields 1 "end" texts[1]?.join
    return .delimited start stop
  | pattern _, texts => return .pattern (← need fields 0 "regex" texts.head?.join)

def ofFields (kind : Target) (fields : Fields) : Decoded Target := do
  let known := kind.fieldNames.map String.toList
  let found ← (fields.entries.filter fun entry => entry.1 ∈ known).mapM fun (name, value) => do
    return (name, ← text value)
  kind.withTexts fields (known.map fun name => found.lookup name)

def ofTag (tag : Value) : Decoded (String × Target) :=
  match tag with
  | .text name => choice kinds name
  | value => .error (.wrongType value "variant identifier")

/-- A target: a table in which `type` names the kind, or an array that begins with the kind. -/
def ofValue (value : Value) : Decoded Target :=
  match entries? value, value with
  | some entries, _ =>
    match entries.get? "type".toList with
    | none => .error (.missingField "type")
    | some tag => do
      let (_, kind) ← ofTag tag
      kind.ofFields (byName (entries.erase "type".toList))
  | none, .list (tag :: items) | none, .tables (tag :: items) => do
    let (name, kind) ← ofTag tag
    let names := kind.fieldNames
    let target ← kind.ofFields (byPlace s!"struct variant MatchDefinition::{name}" names items)
    if names.length < items.length then throw (.tooLong items.length names.length)
    return target
  | none, .list [] | none, .tables [] => .error (.missingField "type")
  | none, _ => .error (.wrongType value "internally tagged enum MatchDefinition")

end Target

def Source.ofValue : Value → Decoded Source :=
  textChoice [("text", .text), ("fragment", .fragment)]

def expectation : Value → Decoded Expectation :=
  textChoice [("present", .present), ("absent", .absent)]

namespace Definition

structure Draft where
  id : Option Text := none
  required : Bool := true
  scope : Scope := .all
  placement : Placement := .replace
  whenText : Option Text := none
  unlessText : Option Text := none
  target : Option Target := none
  source : Option Source := none

def Draft.read (draft : Draft) (name : Text) (value : Value) : Decoded Draft := do
  match name.str with
  | "id" => return { draft with id := some (← text value) }
  | "required" => return { draft with required := ← truth value }
  | "scope" => return { draft with scope := ← plainChoice [("all", .all), ("first", .first)] value }
  | "placement" =>
    let places := [("replace", .replace), ("before", .before), ("after", .after)]
    return { draft with placement := ← plainChoice places value }
  | "when" => return { draft with whenText := some (← text value) }
  | "unless" => return { draft with unlessText := some (← text value) }
  | "match" => return { draft with target := some (← Target.ofValue value) }
  | "replace" => return { draft with source := some (← Source.ofValue value) }
  | _ => return draft

def fieldNames : List String :=
  ["id", "required", "scope", "placement", "when", "unless", "match", "replace"]

def ofValue (value : Value) : Decoded Definition := do
  let fields ← fields "struct RuleDefinition" fieldNames value
  let draft ← fields.entries.foldlM (fun draft (name, value) => draft.read name value) ({} : Draft)
  return {
    id := ← need fields 0 "id" draft.id
    required := draft.required, scope := draft.scope, placement := draft.placement
    whenText := draft.whenText, unlessText := draft.unlessText
    target := ← need fields 6 "match" draft.target
    source := ← need fields 7 "replace" draft.source }

end Definition

end TextMigration.RuleFile

namespace TextMigration

structure RuleFile where
  name : Text := []
  description : Option Text := none
  fragments : List (Text × Text) := []
  definitions : List RuleFile.Definition := []
  expectations : List Expectation := []
deriving DecidableEq, Repr

namespace RuleFile

open Decode
open Toml (Value)

def readMetadata (file : RuleFile) (name : Text) (value : Value) : Decoded RuleFile := do
  match name.str with
  | "name" => return { file with name := ← text value }
  | "description" => return { file with description := some (← text value) }
  | _ => return file

def read (file : RuleFile) (name : Text) (value : Value) : Decoded RuleFile := do
  match name.str with
  | "meta" =>
    let fields ← fields "struct Metadata" ["name", "description"] value
    fields.entries.foldlM (fun file (name, value) => file.readMetadata name value) file
  | "fragments" =>
    let fragments ← (← entries "a map" value).mapM fun (name, body) => do return (name, ← text body)
    return { file with fragments }
  | "rules" => return { file with definitions := ← (← items value).mapM Definition.ofValue }
  | "expect" => return { file with expectations := ← (← items value).mapM expectation }
  | _ => return file

def ofEntries (document : Toml.Entries) : Decoded RuleFile :=
  document.foldlM (fun file (name, value) => file.read name value) {}

end RuleFile

end TextMigration
