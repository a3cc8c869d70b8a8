import TextMigration.Pattern.Escape

/-!
Bracket expressions. Inside them most characters stand for themselves; brackets nest, and sets are joined
by writing them one after another or combined by `&&`, `--` and `~~`, all of the same rank and from the
left.
-/

namespace TextMigration.Pattern

open Cursor (fail)

/-- The items of a set that is being read, last first, and where they would begin. -/
structure Gathered where
  place : Nat
  items : List ClassSet
deriving Repr

namespace Gathered

def add (set : Gathered) (item : ClassSet) : Gathered := { set with items := item :: set.items }

def set (gathered : Gathered) : ClassSet := .ofItems gathered.place gathered.items

end Gathered

inductive OpenSet where
  | bracket (span : Span) (negated : Bool) (outer : Gathered)
  | operator (kind : SetOperator) (left : ClassSet)
deriving Repr

namespace Bracket

def asciiNames : List (String × AsciiClass) := [
  ("alnum", .alnum), ("alpha", .alpha), ("ascii", .ascii), ("blank", .blank), ("cntrl", .cntrl),
  ("digit", .digit), ("graph", .graph), ("lower", .lower), ("print", .print), ("punct", .punct),
  ("space", .space), ("upper", .upper), ("word", .word), ("xdigit", .xdigit)]

def namedClass? (c : Cursor) : Option (ClassSet × Cursor) := do
  let inner ← c.accept? "[:"
  let negated := inner.sees '^'
  let inner := if negated then inner.next else inner
  let name := inner.rest.takeWhile (· != ':')
  let after ← (inner.advance name.length).accept? ":]"
  let kind ← asciiNames.lookup (String.ofList name)
  return (.ascii kind negated (after.since c.place), after)

/-- The hyphens that open a bracket stand for themselves. -/
def leadingHyphens (start : Nat) : Nat → Gathered → Cursor → Except Fault (Gathered × Cursor)
  | 0, set, c => .ok (set, c)
  | fuel + 1, set, c =>
    if c.sees '-' then
      if c.nextSkip.atEnd then fail .classUnclosed ⟨start, start⟩
      else leadingHyphens start fuel (set.add (.literal ⟨'-', c.charSpan, false⟩)) c.nextSkip
    else .ok (set, c)

/-- A bracket that opens here. A closing bracket that comes first stands for itself. No more than `fuel`
characters are left. -/
def opening (fuel : Nat) (outer : Gathered) (c : Cursor) : Except Fault (OpenSet × Gathered × Cursor) := do
  let start := c.place
  let inner := c.nextSkip
  if inner.atEnd then fail .classUnclosed (inner.since start)
  else
    let negated := inner.sees '^'
    let inner := if negated then inner.nextSkip else inner
    if inner.atEnd then fail .classUnclosed (inner.since start)
    else
      let (set, inner) ← leadingHyphens start fuel ⟨inner.place, []⟩ inner
      if set.items.isEmpty && inner.sees ']' then
        let after := inner.nextSkip
        if after.atEnd then fail .classUnclosed (after.since start)
        else
          let set := set.add (.literal ⟨']', inner.charSpan, false⟩)
          return (.bracket (after.since start) negated outer, set, after)
      else return (.bracket (inner.since start) negated outer, set, inner)

def unclosed : List OpenSet → Fault
  | [] => ⟨.classUnclosed, ⟨0, 0⟩, none⟩
  | .bracket span _ _ :: _ => ⟨.classUnclosed, span, none⟩
  | .operator _ _ :: rest => unclosed rest

def applyOperator (set : ClassSet) : List OpenSet → ClassSet × List OpenSet
  | .operator kind left :: rest => (.binary kind ⟨left.span.start, set.span.stop⟩ left set, rest)
  | stack => (set, stack)

def unit (c : Cursor) : Except Fault (Atom × Cursor) :=
  match c.rest with
  | [] => .ok (⟨.empty, c.here⟩, c)
  | '\\' :: _ => Escape.read c
  | d :: _ => .ok (.literal d c.charSpan false, c.next)

def asItem (atom : Atom) : Except Fault ClassSet :=
  match atom.tree with
  | .literal written => .ok (.literal written)
  | .short kind negated span => .ok (.short kind negated span)
  | .unicode name negated span => .ok (.unicode name negated span)
  | _ => fail .classEscapeInvalid atom.span

def asLiteral (atom : Atom) : Except Fault Literal :=
  match atom.tree with
  | .literal written => .ok written
  | _ => fail .classRangeLiteral atom.span

def item (stack : List OpenSet) (c : Cursor) : Except Fault (ClassSet × Cursor) := do
  let (first, after) ← unit c
  let after := after.skip
  if after.atEnd then .error (unclosed stack)
  else if !after.sees '-' || after.second? == some ']' || after.second? == some '-' then
    return (← asItem first, after)
  else
    let inner := after.nextSkip
    if inner.atEnd then .error (unclosed stack)
    else
      let (last, done) ← unit inner
      let low ← asLiteral first
      let high ← asLiteral last
      if high.char < low.char then fail .classRangeInvalid ⟨first.span.start, last.span.stop⟩
      else return (.range low high, done)

def operators : List (String × SetOperator) :=
  [("&&", .intersection), ("--", .difference), ("~~", .symmetricDifference)]

def operator? (c : Cursor) : Option (SetOperator × Cursor) :=
  operators.findSome? fun (sign, kind) => (c.accept? sign).map fun after => (kind, after)

/-- Reads on until the outermost bracket closes. Every round takes at least one character, so `fuel`
need not exceed the length of the pattern. -/
def readFrom : Nat → List OpenSet → Gathered → Cursor → Except Fault (Tree × Cursor)
  | 0, stack, _, _ => .error (unclosed stack)
  | fuel + 1, stack, set, c => do
    let c := c.skip
    match c.rest with
    | [] => .error (unclosed stack)
    | d :: _ =>
      if d = '[' then
        match if stack.isEmpty then none else namedClass? c with
        | some (named, after) => readFrom fuel stack (set.add named) after
        | none =>
          let (opened, inner, after) ← opening fuel set c
          readFrom fuel (opened :: stack) inner after
      else if d = ']' then
        let (whole, rest) := applyOperator set.set stack
        match rest with
        | .bracket span negated outer :: rest =>
          let span : Span := ⟨span.start, c.next.place⟩
          if rest.isEmpty then return (.bracketed negated span whole, c.next)
          else readFrom fuel rest (outer.add (.bracketed negated span whole)) c.next
        | other => .error (unclosed other)
      else
        match operator? c with
        | some (kind, after) =>
          let (left, rest) := applyOperator set.set stack
          readFrom fuel (.operator kind left :: rest) ⟨after.place, []⟩ after
        | none =>
          let (read, after) ← item stack c
          readFrom fuel stack (set.add read) after

def read (c : Cursor) : Except Fault (Tree × Cursor) := readFrom (c.rest.length + 1) [] ⟨c.place, []⟩ c

end Bracket

end TextMigration.Pattern
