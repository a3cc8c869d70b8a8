import TextMigration.Toml.Moment
import TextMigration.Toml.Number
import TextMigration.Toml.Quoted

/-!
Keys and values of a TOML document. A dotted key makes the tables on its way and may add to a table only
if dotted keys alone made it. What stands between braces is closed by its brace: nothing can be added
later.
-/

namespace TextMigration.Toml

structure Pair where
  path : List Text
  value : Value
deriving Repr

/-- Enters a value under a dotted key. Only the last table on the way decides whether a key may be added
to it, so the tables before it may have been implied by headers. -/
def Entries.put? (entries : Entries) (path : List Text) (value : Value) : Option Entries :=
  match path with
  | [] => none
  | [key] => if (entries.get? key).isSome then none else some (entries.add key value)
  | step :: key :: rest => do
    let isLast := rest.isEmpty
    match entries.get? step with
    | none => return entries.add step (.table .dotted (← Entries.put? [] (key :: rest) value))
    | some (.table .dotted inner) =>
      return entries.set step (.table .dotted (← Entries.put? inner (key :: rest) value))
    | some (.table .implied inner) =>
      if isLast then failure
      return entries.set step (.table .implied (← Entries.put? inner (key :: rest) value))
    | some (.tables items) =>
      if isLast then failure
      match items.getLast? with
      | some (.table form inner) =>
        let last := Value.table form (← Entries.put? inner (key :: rest) value)
        return entries.set step (.tables (items.dropLast ++ [last]))
      | _ => failure
    | some _ => failure

def Entries.fill? (entries : Entries) (pairs : List Pair) : Option Entries :=
  pairs.foldlM (fun entries pair => entries.put? pair.path pair.value) entries

namespace Parser

/-- How deeply arrays and braces may be nested, and how many parts a key may have. -/
def deepest : Nat := 80

def isBare (c : Char) : Bool := c.isAlphanum || c = '_' || c = '-'

def part? (text : Text) : Option (Text × Text) :=
  let bare := text.takeWhile isBare
  if bare.isEmpty then Quoted.line? text else some (bare, text.drop bare.length)

def key? : Nat → Text → Option (List Text × Text)
  | 0, _ => none
  | parts + 1, text => do
    let (first, rest) ← part? (skipSpace text)
    match skipSpace rest with
    | '.' :: rest =>
      let (others, rest) ← key? parts rest
      return (first :: others, rest)
    | rest => return ([first], rest)

def isScalar (c : Char) : Bool := isBare c || c = '+' || c = '.' || c = ':'

def scalar? (text : Text) : Option Value :=
  if text = "true".toList then some (.truth true)
  else if text = "false".toList then some (.truth false)
  else
    ((Number.integer? text).map .integer).orElse fun _ =>
      ((Number.real? text).map .real).orElse fun _ => (Moment.ofText? text).map .moment

/-- The value without quotes that stands here. One blank may part a date from its time. -/
def bareValue? (text : Text) : Option (Value × Text) := do
  let first := text.takeWhile isScalar
  let rest := text.drop first.length
  let second := (rest.drop 1).takeWhile isScalar
  let joins := rest.head? = some ' ' && (second.head?.map Char.isDigit).getD false &&
    (Moment.date? first).map Prod.snd = some []
  if joins then
    return (← scalar? (first ++ ' ' :: second), rest.drop (1 + second.length))
  else
    return (← scalar? first, rest)

mutual

/-- The value that stands here; `depth` levels of nesting are left. Each step reads a character or goes
from a list to a value in it, so `fuel` need not exceed twice the length. -/
def value? : Nat → Nat → Text → Option (Value × Text)
  | 0, _, _ => none
  | fuel + 1, depth, text =>
    match text with
    | '[' :: rest =>
      match depth with
      | 0 => none
      | depth + 1 => do
        let (items, rest) ← items? fuel depth (skipLines false rest)
        return (.list items, rest)
    | '\x7b' :: rest =>
      match depth with
      | 0 => none
      | depth + 1 => do
        let (pairs, rest) ← pairs? fuel depth (skipLines false rest)
        return (.table .braced (← Entries.fill? [] pairs), rest)
    | c :: _ =>
      if c = '"' ∨ c = '\'' then (Quoted.string? text).map fun (body, rest) => (.text body, rest)
      else bareValue? text
    | [] => none

def items? : Nat → Nat → Text → Option (List Value × Text)
  | 0, _, _ => none
  | fuel + 1, depth, text =>
    match text with
    | ']' :: rest => some ([], rest)
    | _ => do
      let (first, rest) ← value? fuel depth text
      match skipLines false rest with
      | ',' :: rest =>
        let (others, rest) ← items? fuel depth (skipLines false rest)
        return (first :: others, rest)
      | ']' :: rest => return ([first], rest)
      | _ => failure

/-- The pairs of a table up to its brace. A comma may follow the last, and lines may end between a key,
its equals sign and its value. -/
def pairs? : Nat → Nat → Text → Option (List Pair × Text)
  | 0, _, _ => none
  | fuel + 1, depth, text =>
    match text with
    | '\x7d' :: rest => some ([], rest)
    | _ => do
      let (path, rest) ← key? deepest text
      let rest ← Text.after? ['='] (skipLines false rest)
      let (value, rest) ← value? fuel depth (skipLines false rest)
      match skipLines false rest with
      | ',' :: rest =>
        let (others, rest) ← pairs? fuel depth (skipLines false rest)
        return (⟨path, value⟩ :: others, rest)
      | '\x7d' :: rest => return ([⟨path, value⟩], rest)
      | _ => failure

end

def pair? (text : Text) : Option (Pair × Text) := do
  let (path, rest) ← key? deepest text
  let rest := skipSpace (← Text.after? ['='] rest)
  let (value, rest) ← value? (2 * rest.length + 2) deepest rest
  return (⟨path, value⟩, rest)

end Parser

end TextMigration.Toml
