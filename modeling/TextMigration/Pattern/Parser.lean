import TextMigration.Pattern.Bracket
import TextMigration.Unicode.Visible

/-!
From the text of a pattern to its tree. The parser goes once through the pattern with a stack of the
groups that are open; each round takes one unit, one operator or one parenthesis.
-/

namespace TextMigration.Pattern

open Cursor (fail)

inductive GroupKind where
  | capture (index : Nat)
  | switches (list : Switches)
deriving Repr

/-- What was read inside the innermost open group: where its inside begins, its finished branches, where
the branch being read begins, and the items of that. Branches and items are given last first. -/
structure Level where
  start : Nat
  branches : List Tree
  branchStart : Nat
  items : List Atom
deriving Repr

namespace Level

def startingAt (place : Nat) : Level := ⟨place, [], place, []⟩

def add (level : Level) (item : Atom) : Level := { level with items := item :: level.items }

def branch (level : Level) (stop : Nat) : Tree :=
  match level.items with
  | [] => .empty
  | [item] => item.tree
  | items => .sequence ⟨level.branchStart, stop⟩ (items.reverse.map Atom.tree)

def bar (level : Level) (stop next : Nat) : Level :=
  { level with branches := level.branch stop :: level.branches, branchStart := next, items := [] }

def tree (level : Level) (stop : Nat) : Tree :=
  match level.branches with
  | [] => level.branch stop
  | branches => .alternatives ⟨level.start, stop⟩ (level.branch stop :: branches).reverse

end Level

structure OpenGroup where
  paren : Span
  kind : GroupKind
  outer : Level
  extended : Bool
deriving Repr

structure Progress where
  cursor : Cursor
  stack : List OpenGroup
  level : Level
  groups : Nat
  names : List (Text × Nat × Span)
deriving Repr

namespace Group

def flag? : Char → Option Flag
  | 'i' => some .ignoreCase
  | 'm' => some .multiLine
  | 's' => some .dotAll
  | 'U' => some .swapGreed
  | 'u' => some .unicode
  | 'R' => some .crlf
  | 'x' => some .extended
  | _ => none

/-- Flags up to the colon or parenthesis that ends them. An item without a flag is the hyphen that turns
the flags after it off. -/
def readFlags : Nat → List (Option Flag × Span) → Cursor → Except Fault (List (Option Flag × Span) × Cursor)
  | 0, _, c => fail .flagMissing c.here
  | fuel + 1, items, c =>
    match c.rest with
    | [] => fail .flagMissing c.here
    | d :: _ =>
      if d = ':' ∨ d = ')' then
        match items.getLast? with
        | some (none, span) => fail .flagDanglingNegation span
        | _ => .ok (items, c)
      else do
        let item : Option Flag ← if d = '-' then pure none else
          match flag? d with
          | some flag => pure (some flag)
          | none => fail .flagUnrecognized c.charSpan
        match items.find? fun earlier => earlier.1 == item with
        | some (_, span) =>
          .error ⟨if item.isNone then .flagRepeatedNegation else .flagDuplicate, c.charSpan, some span⟩
        | none =>
          let items := items ++ [(item, c.charSpan)]
          if c.next.atEnd then fail .flagMissing c.next.here else readFlags fuel items c.next

def switches : Bool → List (Option Flag × Span) → Switches
  | _, [] => []
  | _, (none, _) :: rest => switches false rest
  | on, (some flag, _) :: rest => (flag, on) :: switches on rest

def isNameChar (first : Bool) (c : Char) : Bool :=
  if first then c == '_' || Unicode.beginsName c
  else c == '_' || c == '.' || c == '[' || c == ']' || Unicode.continuesName c

def nameChars : Nat → Bool → Cursor → Except Fault (Text × Cursor)
  | 0, _, c => fail .groupNameUnclosed c.here
  | fuel + 1, first, c =>
    match c.rest with
    | [] => fail .groupNameUnclosed c.here
    | d :: _ =>
      if d = '>' then .ok ([], c)
      else if !isNameChar first d then fail .groupNameInvalid c.charSpan
      else do
        let (rest, after) ← nameChars fuel false c.next
        return (d :: rest, after)

def name (taken : List (Text × Nat × Span)) (c : Cursor) : Except Fault (Text × Span × Cursor) := do
  let (text, after) ← nameChars (c.rest.length + 1) true c
  if text.isEmpty then fail .groupNameEmpty c.here
  else
    let span := after.since c.place
    match taken.find? fun other => other.1 == text with
    | some (_, _, earlier) => .error ⟨.groupNameDuplicate, span, some earlier⟩
    | none => return (text, span, after.next)

def switched? (flag : Flag) (list : Switches) : Option Bool := list.lookup flag

def opening (p : Progress) : Except Fault Progress := do
  let paren := p.cursor.charSpan
  let c := p.cursor.next.skip
  if let some after := ["?=", "?!", "?<=", "?<!"].findSome? c.accept? then
    fail .lookAround (after.since paren.start)
  else if let some inner := ["?P<", "?<"].findSome? c.accept? then
    let (text, span, after) ← name p.names inner
    let index := p.groups + 1
    return ⟨after, ⟨paren, .capture index, p.level, after.extended⟩ :: p.stack, .startingAt after.place, index,
      p.names ++ [(text, index, span)]⟩
  else if let some inner := c.accept? "?" then
    if inner.atEnd then fail .groupUnclosed paren
    else
      let (items, after) ← readFlags (inner.rest.length + 1) [] inner
      let list := switches true items
      let extended := (switched? .extended list).getD inner.extended
      if after.sees ')' then
        if items.isEmpty then fail .repetitionMissing c.here
        else
          return { p with
            cursor := { after.next with extended := extended }
            level := p.level.add ⟨.switch list, after.next.since paren.start⟩ }
      else
        return { p with
          cursor := { after.next with extended := extended }
          stack := ⟨paren, .switches list, p.level, inner.extended⟩ :: p.stack
          level := .startingAt after.next.place }
  else
    let index := p.groups + 1
    return { p with
      cursor := c
      stack := ⟨paren, .capture index, p.level, c.extended⟩ :: p.stack
      level := .startingAt c.place
      groups := index }

def closing (p : Progress) : Except Fault Progress :=
  match p.stack with
  | [] => fail .groupUnopened p.cursor.charSpan
  | opened :: rest =>
    let span := p.cursor.next.since opened.paren.start
    let inside := p.level.tree p.cursor.place
    let group : Tree :=
      match opened.kind with
      | .capture index => .capture span index inside
      | .switches list => .group span list inside
    .ok { p with
      cursor := { p.cursor.next with extended := opened.extended }
      stack := rest
      level := opened.outer.add ⟨group, span⟩ }

end Group

namespace Repeat

def operand (p : Progress) : Except Fault (Atom × List Atom) :=
  match p.level.items with
  | [] => fail .repetitionMissing p.cursor.here
  | ⟨.switch _, _⟩ :: _ => fail .repetitionMissing p.cursor.here
  | item :: rest => .ok (item, rest)

def repeated (count : Count) (lazily : Bool) (item : Atom) (c : Cursor) : Atom :=
  let span := c.since item.span.start
  ⟨.repetition span count lazily item.tree, span⟩

def short (count : Count) (p : Progress) : Except Fault Progress := do
  let (item, rest) ← operand p
  let after := p.cursor.next
  let lazily := after.sees '?'
  let after := if lazily then after.next else after
  return { p with
    cursor := after
    level := { p.level with items := repeated count lazily item after :: rest } }

def countLimit : Nat := UInt32.size

def decimal (c : Cursor) : Except Fault Nat × Cursor :=
  let c := c.pastBlanks
  let (digits, after) := c.takeRun Char.isDigit
  let span := after.since c.place
  let value := digits.foldl (fun acc d => acc * 10 + (d.toNat - 48)) 0
  let result : Except Fault Nat :=
    if digits.isEmpty then fail .repetitionCountEmpty span
    else if value < countLimit then .ok value
    else fail .decimalInvalid span
  (result, after.pastBlanks)

def bounds (start : Nat) (c : Cursor) : Except Fault (Count × Cursor) := do
  let (least, after) := decimal c
  if after.atEnd then fail .repetitionCountUnclosed (after.since start)
  else if after.sees ',' then
    let inner := after.nextSkip
    if inner.atEnd then fail .repetitionCountUnclosed (inner.since start)
    else if inner.sees '\x7d' then return (⟨← least, none⟩, inner)
    else
      let least ← least
      let (most, done) := decimal inner
      return (⟨least, some (← most)⟩, done)
  else
    let exact ← least
    return (⟨exact, some exact⟩, after)

def counted (p : Progress) : Except Fault Progress := do
  let start := p.cursor.place
  let (item, rest) ← operand p
  let inner := p.cursor.nextSkip
  if inner.atEnd then fail .repetitionCountUnclosed (inner.since start)
  else
    let (count, after) ← bounds start inner
    if !after.sees '\x7d' then fail .repetitionCountUnclosed (after.since start)
    else
      let after := after.nextSkip
      let lazily := after.sees '?'
      let after := if lazily then after.next else after
      if count.most.any fun most => decide (most < count.least) then
        fail .repetitionCountInvalid (after.since start)
      else
        return { p with
          cursor := after
          level := { p.level with items := repeated count lazily item after :: rest } }

end Repeat

namespace Progress

/-- One unit, operator or parenthesis; `none` at the end of the pattern. -/
def step (p : Progress) : Except Fault (Option Progress) := do
  let p := { p with cursor := p.cursor.skip }
  match p.cursor.rest with
  | [] => return none
  | '(' :: _ => return some (← Group.opening p)
  | ')' :: _ => return some (← Group.closing p)
  | '|' :: _ =>
    return some { p with
      cursor := p.cursor.next
      level := p.level.bar p.cursor.place p.cursor.next.place }
  | '[' :: _ =>
    let (set, after) ← Bracket.read p.cursor
    return some { p with cursor := after, level := p.level.add ⟨set, after.since p.cursor.place⟩ }
  | '?' :: _ => return some (← Repeat.short ⟨0, some 1⟩ p)
  | '*' :: _ => return some (← Repeat.short ⟨0, none⟩ p)
  | '+' :: _ => return some (← Repeat.short ⟨1, none⟩ p)
  | '\x7b' :: _ => return some (← Repeat.counted p)
  | _ =>
    let (atom, after) ← Atom.read p.cursor
    return some { p with cursor := after, level := p.level.add atom }

/-- Steps until the end of the pattern. Every step takes a character, so `fuel` need only exceed the
length of the pattern. -/
def run : Nat → Progress → Except Fault Progress
  | 0, p => .ok p
  | fuel + 1, p => do
    match ← step p with
    | none => return p
    | some next => run fuel next

end Progress

def parse (pattern : Text) : Except Fault Parsed := do
  let start : Progress := ⟨Cursor.ofPattern pattern, [], .startingAt 0, 0, []⟩
  let p ← Progress.run (pattern.length + 1) start
  match p.stack with
  | opened :: _ => fail .groupUnclosed opened.paren
  | [] =>
    return ⟨p.level.tree p.cursor.place, p.groups, p.names.map fun (text, index, _) => (text, index)⟩

end TextMigration.Pattern
