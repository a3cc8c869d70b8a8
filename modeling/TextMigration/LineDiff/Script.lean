import TextMigration.LineDiff.Edit

/-!
A short script from one list of lines to another. What both lists begin and end with is kept. Between
them two searches look for a point on a shortest path, one from either end, each going as far as it can
with one edit more at a time; where they meet the lists are split, and each half is treated alike. The
order in which the searches try their diagonals decides between paths of one length.
-/

namespace TextMigration.LineDiff

/-- How far a search has come in the old list, by diagonal: the place in the old list less that in the
new one. -/
structure Reach where
  farthest : Array Nat
  middle : Nat

namespace Reach

def empty (lines : Nat) : Reach := ⟨Array.replicate (2 * lines + 5) 0, lines + 2⟩

def get (reach : Reach) (diagonal : Int) : Nat :=
  reach.farthest[(diagonal + reach.middle).toNat]?.getD 0

def set (reach : Reach) (diagonal : Int) (place : Nat) : Reach :=
  { reach with farthest := reach.farthest.setIfInBounds (diagonal + reach.middle).toNat place }

end Reach

abbrev Point := Nat × Nat

/-- How many lines are equal from a point on; `fuel` need not exceed the lines of the old list. -/
def equalRun (old new : Array Text) : Nat → Nat → Nat → Nat
  | 0, _, _ => 0
  | fuel + 1, x, y =>
    match old[x]?, new[y]? with
    | some a, some b => if a = b then equalRun old new fuel (x + 1) (y + 1) + 1 else 0
    | _, _ => 0

def farthestRun (old new : Array Text) (reach : Reach) (edits : Nat) (diagonal : Int) : Point × Point :=
  let below := reach.get (diagonal - 1)
  let above := reach.get (diagonal + 1)
  let x := if diagonal = -edits ∨ (diagonal ≠ edits ∧ below < above) then above else below + 1
  let y := (x - diagonal).toNat
  let run := equalRun old new old.size x y
  ((x, y), (x + run, y + run))

/-- Goes along the diagonals in order. Ends early where the run meets the other search, which is looked
for on diagonals no farther than `limit` from the one between the ends. -/
def sweep (old new : Array Text) (other : Reach) (edits : Nat) (limit : Int) :
    List Int → Reach → Option (Point × Point) × Reach
  | [], reach => (none, reach)
  | diagonal :: rest, reach =>
    let (start, stop) := farthestRun old new reach edits diagonal
    let reach := reach.set diagonal stop.1
    let across : Int := diagonal - (old.size - new.size)
    if across.natAbs ≤ limit ∧ old.size ≤ stop.1 + other.get (-across) then (some (start, stop), reach)
    else sweep old new other edits limit rest reach

def diagonals (edits : Nat) : List Int :=
  (List.range (edits + 1)).map fun (i : Nat) => (edits : Int) - 2 * i

/-- A point on a shortest path; `fuel` bounds the edits on either side. -/
def middle? (old new : Array Text) : Nat → Nat → Reach → Reach → Option Point
  | 0, _, _, _ => none
  | fuel + 1, edits, forward, backward =>
    let isOdd := (old.size + new.size) % 2 = 1
    let forwardLimit : Int := if isOdd then (edits : Int) - 1 else -1
    let backwardLimit : Int := if isOdd then -1 else edits
    match sweep old new backward edits forwardLimit (diagonals edits) forward with
    | (some (start, _), _) => some start
    | (none, forward) =>
      match sweep old.reverse new.reverse forward edits backwardLimit (diagonals edits) backward with
      | (some (_, stop), _) => some (old.size - stop.1, new.size - stop.2)
      | (none, backward) => middle? old new fuel (edits + 1) forward backward

def split? (old new : List Text) : Option Point :=
  let lines := old.length + new.length
  middle? old.toArray new.toArray (lines + 1) 0 (Reach.empty lines) (Reach.empty lines)

/-- The script between two stretches that begin at the given places; each split leaves less, so `fuel`
need not exceed the lines of both. -/
def scriptFrom : Nat → Nat → Nat → List Text → List Text → List Edit
  | 0, oldStart, newStart, old, new =>
    [.drop oldStart old.length newStart, .add (oldStart + old.length) newStart new.length]
  | fuel + 1, oldStart, newStart, old, new =>
    let lead := sharedStart old new
    let oldRest := old.drop lead
    let newRest := new.drop lead
    let trail := sharedEnd oldRest newRest
    let oldCore := oldRest.take (oldRest.length - trail)
    let newCore := newRest.take (newRest.length - trail)
    let oldAt := oldStart + lead
    let newAt := newStart + lead
    let core : List Edit :=
      if oldCore.isEmpty ∧ newCore.isEmpty then []
      else if newCore.isEmpty then [.drop oldAt oldCore.length newAt]
      else if oldCore.isEmpty then [.add oldAt newAt newCore.length]
      else
        match split? oldCore newCore with
        | some (x, y) =>
          scriptFrom fuel oldAt newAt (oldCore.take x) (newCore.take y) ++
            scriptFrom fuel (oldAt + x) (newAt + y) (oldCore.drop x) (newCore.drop y)
        | none => [.drop oldAt oldCore.length newAt, .add oldAt newAt newCore.length]
    (if lead = 0 then [] else [.keep oldStart newStart lead]) ++ core ++
      if trail = 0 then [] else [.keep (oldAt + oldCore.length) (newAt + newCore.length) trail]

def script (old new : List Text) : List Edit :=
  scriptFrom (old.length + new.length + 1) 0 0 old new

end TextMigration.LineDiff
