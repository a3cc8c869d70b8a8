import TextMigration.Number.Shortest
import TextMigration.Report

/-!
Reports as JSON, laid out for reading: each field and each item on a line of its own, indented by two
spaces a level. Fields keep the order in which they are given.
-/

namespace TextMigration.Json

inductive Tree where
  | truth (value : Bool)
  | number (value : Nat)
  | decimal (value : SignedBinary64)
  | text (text : Text)
  | list (items : List Tree)
  | object (fields : List (String × Tree))
deriving Repr

def escape (c : Char) : Text :=
  if c = '"' then ['\\', '"']
  else if c = '\\' then ['\\', '\\']
  else if c = '\n' then ['\\', 'n']
  else if c = '\r' then ['\\', 'r']
  else if c = '\t' then ['\\', 't']
  else if c = '\x08' then ['\\', 'b']
  else if c = '\x0c' then ['\\', 'f']
  else if c.toNat < 0x20 then ['\\', 'u'] ++ Text.hexDigits 4 c.toNat
  else [c]

def quoted (text : Text) : Text := '"' :: text.flatMap escape ++ ['"']

def indent (level : Nat) : Text := List.replicate (2 * level) ' '

def enclosed (level : Nat) (opening closing : Char) (parts : List Text) : Text :=
  if parts.isEmpty then [opening, closing]
  else
    let lines := parts.map fun part => '\n' :: indent (level + 1) ++ part
    opening :: List.intercalate [','] lines ++ '\n' :: indent level ++ [closing]

mutual

def Tree.pretty (level : Nat) : Tree → Text
  | .truth value => (toString value).toList
  | .number value => Nat.toDigits 10 value
  | .decimal value => value.positional
  | .text value => quoted value
  | .list items => enclosed level '[' ']' (prettyItems (level + 1) items)
  | .object fields => enclosed level '\x7b' '\x7d' (prettyFields (level + 1) fields)

def prettyItems (level : Nat) : List Tree → List Text
  | [] => []
  | item :: rest => item.pretty level :: prettyItems level rest

def prettyFields (level : Nat) : List (String × Tree) → List Text
  | [] => []
  | (name, value) :: rest =>
    (quoted name.toList ++ [':', ' '] ++ value.pretty level) :: prettyFields level rest

end

end TextMigration.Json

namespace TextMigration

open Json (Tree)

def Status.json : Status → Tree
  | .applied => .object [("kind", .text "applied".toList)]
  | .noMatch => .object [("kind", .text "no_match".toList)]
  | .skipped reason satisfied => .object [
      ("kind", .text "skipped".toList), ("reason", .text reason), ("satisfied", .truth satisfied)]

def NearMiss.json (near : NearMiss) : Tree :=
  .object [("line", .number near.line), ("text", .text near.text), ("similarity", .decimal near.similarity)]

def Application.json (result : Application) : Tree :=
  .object ([
    ("rule_id", .text result.ruleId), ("required", .truth result.required),
    ("status", result.status.json), ("matched", .truth result.matched),
    ("occurrences", .number result.occurrences), ("found", .number result.found),
    ("already_applied", .truth result.alreadyApplied)] ++
    (result.nearMiss.map fun near => ("near_miss", near.json)).toList)

def Violation.json (violation : Violation) : Tree :=
  .object [
    ("expectation", .object [
      ("kind", .text violation.expectation.kind.toList),
      ("needle", .text violation.expectation.needle)]),
    ("occurrences", .number violation.occurrences)]

def Report.json (report : Report) : Tree :=
  .object [
    ("ruleset", .text report.ruleSet),
    ("results", .list (report.results.map Application.json)),
    ("violations", .list (report.violations.map Violation.json)),
    ("input_digest", .text (Digest.shown report.inputDigest)),
    ("output_digest", .text (Digest.shown report.outputDigest))]

end TextMigration
