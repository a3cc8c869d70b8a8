import TextMigration.Toml.Parser

/-!
Whole TOML documents: pairs, and headers under which the pairs after them go. A table can be defined
once. A header may still define a table that only deeper headers have implied so far; the table then
takes its place in the order anew. A header in double brackets adds one more table to an array that such
headers made.
-/

namespace TextMigration.Toml

structure Section where
  path : List Text
  isRepeated : Bool
  pairs : List Pair
deriving Repr

/-- Changes the entries of the table at the end of a path. A table on the way that is not there is
implied; of an array of tables the last is meant. -/
def Entries.within? (change : Entries → Option Entries) : List Text → Entries → Option Entries
  | [], entries => change entries
  | step :: path, entries => do
    match entries.get? step with
    | none => return entries.add step (.table .implied (← Entries.within? change path []))
    | some (.table .braced _) => failure
    | some (.table form inner) =>
      return entries.set step (.table form (← Entries.within? change path inner))
    | some (.tables items) =>
      match items.getLast? with
      | some (.table form inner) =>
        let last := Value.table form (← Entries.within? change path inner)
        return entries.set step (.tables (items.dropLast ++ [last]))
      | _ => failure
    | some _ => failure

namespace Section

def define? (block : Section) (key : Text) (entries : Entries) : Option Entries := do
  if block.isRepeated then
    let table := Value.table .headed (← Entries.fill? [] block.pairs)
    match entries.get? key with
    | none => return entries.add key (.tables [table])
    | some (.tables items) => return entries.set key (.tables (items ++ [table]))
    | some _ => failure
  else
    match entries.get? key with
    | none => return entries.add key (.table .headed (← Entries.fill? [] block.pairs))
    | some (.table .implied inner) =>
      return (entries.erase key).add key (.table .headed (← Entries.fill? inner block.pairs))
    | some _ => failure

def enter? (entries : Entries) (block : Section) : Option Entries := do
  let key ← block.path.getLast?
  Entries.within? (block.define? key) block.path.dropLast entries

end Section

namespace Parser

def header? (text : Text) : Option (Section × Text) := do
  match text with
  | '[' :: '[' :: rest =>
    let (path, rest) ← key? deepest rest
    let rest ← endOfLine? (← Text.after? [']', ']'] rest)
    return (⟨path, true, []⟩, rest)
  | '[' :: rest =>
    let (path, rest) ← key? deepest rest
    let rest ← endOfLine? (← Text.after? [']'] rest)
    return (⟨path, false, []⟩, rest)
  | _ => failure

def lines? : Nat → Text → Option (List Pair × List Section)
  | 0, _ => none
  | fuel + 1, text => do
    match skipLines false text with
    | [] => return ([], [])
    | '[' :: rest =>
      let (block, rest) ← header? ('[' :: rest)
      let (pairs, blocks) ← lines? fuel rest
      return ([], { block with pairs } :: blocks)
    | rest =>
      let (pair, rest) ← pair? rest
      let (pairs, blocks) ← lines? fuel (← endOfLine? rest)
      return (pair :: pairs, blocks)

end Parser

/-- The entries of a document, or nothing when the text is not TOML. A byte order mark before it is
skipped. -/
def document? (text : Text) : Option Entries := do
  let text := (Text.after? ['\uFEFF'] text).getD text
  let (pairs, blocks) ← Parser.lines? (text.length + 1) text
  blocks.foldlM Section.enter? (← Entries.fill? [] pairs)

end TextMigration.Toml
