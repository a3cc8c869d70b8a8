import TextMigration.Pattern.Footprint.ClassTree
import TextMigration.Pattern.Footprint.WordTree
import TextMigration.Pattern.Regex

/-!
The room that a regex takes as an automaton over bytes. There are two of them, one that reads a text
forward and also notes the groups, and one that reads it backward. A pattern is refused if either is
larger than the limit. Most patterns are far from it, which a rough bound shows at once.
-/

namespace TextMigration.Pattern

open Unicode (ByteRange Ranges)

inductive Direction where
  | forward
  | backward
deriving DecidableEq, Repr

namespace Building

/-- A class of characters, with the sequences of byte ranges that it comes to. A single character is built
byte by byte. -/
def ofClass (direction : Direction) (set : Ranges) (sequences : List (List ByteRange)) : Building :=
  match (Regex.chars set).single? with
  | some point => plain (ByteRange.bytes point).length 0
  | none =>
    if set.isAscii then plain 2 (Footprint.edgeSize * set.length)
    else
      match direction with
      | .forward => fun room => (ClassTree.forward sequences room).checked
      | .backward => fun room => (ClassTree.backward sequences room).checked

/-- A choice between branches, or the only branch. The place where they part has a target for each, and
there is one where they meet; both are built after the second branch. -/
def ofBranches : List Building → Building
  | [] => some
  | [branch] => branch
  | first :: second :: rest =>
    let both := first.andThen (second.andThen (plain 2 (2 * Footprint.targetSize)))
    rest.foldl (fun all branch => all.andThen (branch.andThen (plain 0 Footprint.targetSize))) both

def fork : Building := plain 1 (2 * Footprint.targetSize)

def joint : Building := plain 1 0

def repeated (count : Count) (isNullable : Bool) (part : Building) : Building :=
  match count.least, count.most with
  | 0, some 1 => fork.andThen (part.andThen joint)
  | 0, none => if isNullable then part.andThen (fork.andThen (fork.andThen joint)) else fork.andThen part
  | least + 1, none => (times (least + 1) part).andThen fork
  | least, some most =>
    let fixed := if least = 0 then joint else times least part
    if least = most then fixed else fixed.andThen (joint.andThen (times (most - least) (fork.andThen part)))

end Building

def Regex.word? : Regex → Option (List Nat)
  | .sequence first second => return (← first.word?) ++ (← second.word?)
  | regex => regex.single?.map ByteRange.bytes

def Regex.words? : Regex → Option (List (List Nat))
  | .alternatives first second => (Regex.alternatives first second).branches.mapM Regex.word?
  | _ => none

def Regex.assembled (direction : Direction) (regex : Regex) (parts : List Building) : Building :=
  match regex.words? with
  | none => Building.ofBranches parts
  | some words => WordTree.building (if direction = .forward then words else words.map List.reverse)

def Regex.parts (direction : Direction) : Regex → List Building
  | .empty => [.joint]
  | .chars set => [.ofClass direction set (ByteRange.ofRanges set)]
  | .look _ => [.joint]
  | .sequence first second =>
    let one := first.assembled direction (first.parts direction)
    let two := second.assembled direction (second.parts direction)
    [if direction = .forward then one.andThen two else two.andThen one]
  | .alternatives first second =>
    first.assembled direction (first.parts direction) :: second.parts direction
  | .repetition count _ inner =>
    [.repeated count inner.isNullable (inner.assembled direction (inner.parts direction))]
  | .capture _ inner =>
    let part := inner.assembled direction (inner.parts direction)
    let ends : Building := if direction = .forward then .joint else some
    [ends.andThen (part.andThen ends)]

def Regex.isAnchoredFront : Regex → Bool
  | .look condition => condition == .textStart
  | .sequence first second => first.isAnchoredFront || (first.takesNothing && second.isAnchoredFront)
  | .alternatives first second => first.isAnchoredFront && second.isAnchoredFront
  | .repetition count _ inner => 0 < count.least && inner.isAnchoredFront
  | .capture _ inner => inner.isAnchoredFront
  | _ => false

def Regex.isAnchoredBack : Regex → Bool
  | .look condition => condition == .textEnd
  | .sequence first second => second.isAnchoredBack || (second.takesNothing && first.isAnchoredBack)
  | .alternatives first second => first.isAnchoredBack && second.isAnchoredBack
  | .repetition count _ inner => 0 < count.least && inner.isAnchoredBack
  | .capture _ inner => inner.isAnchoredBack
  | _ => false

/-- The whole automaton of a regex. In front of it any bytes are passed over, unless a match can begin at
one place only; the whole match is noted like a group. -/
def Regex.building (direction : Direction) (regex : Regex) : Building :=
  let isAnchored := if direction = .forward then regex.isAnchoredFront else regex.isAnchoredBack
  let front : Building :=
    if isAnchored then .joint else Building.fork.andThen (.plain 2 Footprint.edgeSize)
  front.andThen ((Building.ofBranches ((Regex.capture 0 regex).parts direction)).andThen .joint)

/-- No range of characters takes more room than this. -/
def rangeBound : Nat := 3600

def Regex.roomBound : Regex → Nat
  | .empty => 32
  | .chars set => 128 + rangeBound * set.length
  | .look _ => 32
  | .sequence first second => first.roomBound + second.roomBound
  | .alternatives first second => first.roomBound + second.roomBound + 80
  | .repetition count _ inner => (count.most.getD count.least + 1) * (inner.roomBound + 40) + 120
  | .capture _ inner => inner.roomBound + 64

/-- The number of words from which a choice between words is searched for without an automaton. -/
def manyWords : Nat := 3000

def Regex.isWordList (regex : Regex) : Bool :=
  let branches := regex.branches
  decide (manyWords ≤ branches.length) && branches.all fun branch => branch.word?.isSome

def Regex.fits (regex : Regex) : Bool :=
  decide (regex.roomBound + 400 ≤ Footprint.limit) || regex.isWordList ||
    ((regex.building .forward .empty).isSome && (regex.building .backward .empty).isSome)

end TextMigration.Pattern
