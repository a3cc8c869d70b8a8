import TextMigration.Pattern.Tree
import TextMigration.Unicode.Property

/-!
Patterns with their flags worked in. Every leaf is a class of characters or a condition on a place, and
every choice says which side is tried first. The functions that put regexes together keep them simple:
nothing is repeated that takes nothing, no sequence holds another or an empty regex, and a choice between
classes is a class.
-/

namespace TextMigration.Pattern

open Unicode (Ranges word)

inductive Look where
  | textStart
  | textEnd
  | lineStart (crlf : Bool)
  | lineEnd (crlf : Bool)
  | edge (kind : Assertion) (unicode : Bool)
deriving DecidableEq, Repr

def Look.holds (before after : Option Char) : Look → Bool
  | .textStart => before.isNone
  | .textEnd => after.isNone
  | .lineStart false => before.isNone || before == some '\n'
  | .lineStart true =>
    before.isNone || before == some '\n' || (before == some '\r' && after != some '\n')
  | .lineEnd false => after.isNone || after == some '\n'
  | .lineEnd true =>
    after.isNone || after == some '\r' || (after == some '\n' && before != some '\r')
  | .edge kind unicode =>
    let set := if unicode then word else AsciiClass.word.ranges
    let left := before.any fun c => set.has c.toNat
    let right := after.any fun c => set.has c.toNat
    match kind with
    | .wordBoundary => left != right
    | .notWordBoundary => left == right
    | .wordStart => !left && right
    | .wordEnd => left && !right
    | .wordStartHalf => !left
    | .wordEndHalf => !right
    | _ => true

inductive Regex where
  | empty
  | chars (set : Ranges)
  | look (condition : Look)
  | sequence (first second : Regex)
  | alternatives (first second : Regex)
  | repetition (count : Count) (lazily : Bool) (inner : Regex)
  | capture (index : Nat) (inner : Regex)
deriving DecidableEq, Repr

namespace Regex

def single (point : Nat) : Regex := chars [(point, point)]

def single? : Regex → Option Nat
  | chars [(first, last)] => if first = last then some first else none
  | _ => none

/-- How many characters a match takes at the least; nothing where a part can match nothing at all. -/
def leastLength? : Regex → Option Nat
  | empty => some 0
  | chars set => if set.isEmpty then none else some 1
  | look _ => some 0
  | sequence first second => do return (← first.leastLength?) + (← second.leastLength?)
  | alternatives first second => do return min (← first.leastLength?) (← second.leastLength?)
  | repetition count _ inner => inner.leastLength?.map (count.least * ·)
  | capture _ inner => inner.leastLength?

def isNullable (regex : Regex) : Bool := regex.leastLength?.all (· == 0)

def takesNothing : Regex → Bool
  | empty => true
  | chars _ => false
  | look _ => true
  | sequence first second => first.takesNothing && second.takesNothing
  | alternatives first second => first.takesNothing && second.takesNothing
  | repetition _ _ inner => inner.takesNothing
  | capture _ inner => inner.takesNothing

def items : Regex → List Regex
  | empty => []
  | sequence first second => first.items ++ second.items
  | regex => [regex]

def branches : Regex → List Regex
  | alternatives first second => first.branches ++ second.branches
  | regex => [regex]

def ofItems : List Regex → Regex
  | [] => empty
  | [item] => item
  | item :: rest => sequence item (ofItems rest)

def ofBranches : List Regex → Regex
  | [] => chars []
  | [branch] => branch
  | branch :: rest => alternatives branch (ofBranches rest)

def inOrder (regexes : List Regex) : Regex := ofItems (regexes.flatMap items)

/-- A regex repeated. More than one round of a regex that takes nothing is like one. -/
def repeated (count : Count) (lazily : Bool) (inner : Regex) : Regex :=
  let count : Count :=
    if inner.takesNothing then ⟨min count.least 1, some (min (count.most.getD 1) 1)⟩ else count
  if count = ⟨0, some 0⟩ then empty
  else if count = ⟨1, some 1⟩ then inner
  else repetition count lazily inner

def class? (regex : Regex) : Option Ranges :=
  match regex with
  | chars set => if regex.single?.isSome then none else some set
  | _ => none

def merged? (branches : List Regex) : Option Regex :=
  match branches.mapM single? with
  | some points => some (chars (Ranges.ofPoints points))
  | none => (branches.mapM class?).map fun sets => chars (Ranges.unionAll sets)

def joined (branches : List Regex) : Regex :=
  match branches with
  | [branch] => branch
  | branches => (merged? branches).getD (ofBranches branches)

def words : List Regex → List (List Regex)
  | [] => []
  | item :: rest =>
    match item.single?, words rest with
    | some _, (next :: more) :: others =>
      if next.single?.isSome then (item :: next :: more) :: others else [item] :: (next :: more) :: others
    | _, others => [item] :: others

def common (left right : List (List Regex)) : List (List Regex) :=
  ((left.zip right).takeWhile fun (a, b) => a == b).map Prod.fst

/-- The words that all branches begin with, and what follows them in each. Every branch must have more
than one word. -/
def shared? (branches : List Regex) : Option (List Regex × List Regex) :=
  let spelled := branches.map fun branch => words branch.items
  match spelled with
  | [] => none
  | first :: rest =>
    let front := rest.foldl common first
    if front.isEmpty || spelled.any (fun branch => branch.length < 2) then none
    else some (front.flatten, spelled.map fun branch => ofItems (branch.drop front.length).flatten)

def oneOf (regexes : List Regex) : Regex :=
  let all := regexes.flatMap branches
  match all with
  | [branch] => branch
  | all =>
    match merged? all, shared? all with
    | some set, _ => set
    | none, some (front, rest) => inOrder (front ++ [joined (rest.flatMap branches)])
    | none, none => ofBranches all

end Regex

end TextMigration.Pattern
