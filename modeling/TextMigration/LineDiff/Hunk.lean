import TextMigration.LineDiff.Settle

/-!
The changes between two texts, as they are shown: dropped and added lines that stand together are one
change, and each group of changes is shown with three kept lines around it.
-/

namespace TextMigration.LineDiff

inductive Block where
  | same (old new length : Nat)
  | changed (old oldLength new newLength : Nat)
deriving DecidableEq, Repr

namespace Block

def oldStart : Block → Nat
  | same old _ _ => old
  | changed old _ _ _ => old

def oldStop : Block → Nat
  | same old _ length => old + length
  | changed old oldLength _ _ => old + oldLength

def newStart : Block → Nat
  | same _ new _ => new
  | changed _ _ new _ => new

def newStop : Block → Nat
  | same _ new length => new + length
  | changed _ _ new newLength => new + newLength

/-- Joins an edit to the blocks before it, the last of them first. -/
def join : List Block → Edit → List Block
  | same old new length :: rest, .keep _ _ more => same old new (length + more) :: rest
  | rest, .keep old new length => same old new length :: rest
  | changed old oldLength new newLength :: rest, .drop more length _ =>
    let old := if oldLength = 0 then more else old
    changed old (oldLength + length) new newLength :: rest
  | rest, .drop old length new => changed old length new 0 :: rest
  | changed old oldLength new newLength :: rest, .add _ more length =>
    let new := if newLength = 0 then more else new
    changed old oldLength new (newLength + length) :: rest
  | rest, .add old new length => changed old 0 new length :: rest

def ofEdits (edits : List Edit) : List Block := (edits.foldl join []).reverse

end Block

abbrev Hunk := List Block

def context : Nat := 3

def trimStart : List Block → List Block
  | .same old new length :: rest =>
    let skipped := length - context
    .same (old + skipped) (new + skipped) (length - skipped) :: rest
  | blocks => blocks

def trimEnd : List Block → List Block
  | [.same old new length] => [.same old new (min length context)]
  | [] => []
  | block :: rest => block :: trimEnd rest

/-- Groups blocks: a long stretch of kept lines ends one group and begins the next. -/
def group : Hunk → List Block → List Hunk
  | pending, [] =>
    match pending with
    | [] | [.same _ _ _] => []
    | _ => [pending]
  | pending, .same old new length :: rest =>
    if 2 * context < length then
      let skipped := length - context
      (pending ++ [.same old new context]) ::
        group [.same (old + skipped) (new + skipped) (length - skipped)] rest
    else group (pending ++ [.same old new length]) rest
  | pending, block :: rest => group (pending ++ [block]) rest

namespace Hunk

def ofLines (old new : List Text) : List Hunk :=
  let edits := settle old.toArray new.toArray (script old new)
  group [] (trimEnd (trimStart (Block.ofEdits edits)))

structure Header where
  oldStart : Nat
  oldLength : Nat
  newStart : Nat
  newLength : Nat
deriving DecidableEq, Repr

def header? (hunk : Hunk) : Option Header := do
  let first ← hunk.head?
  let last ← hunk.getLast?
  return ⟨first.oldStart, last.oldStop - first.oldStart, first.newStart, last.newStop - first.newStart⟩

end Hunk

inductive Mark where
  | kept
  | dropped
  | added
deriving DecidableEq, Repr

/-- The lines of a block, each with its mark; dropped lines come before those that take their place. -/
def Block.lines (old new : Array Text) : Block → List (Mark × Text)
  | same o _ length => (slice old o length).map fun line => (.kept, line)
  | changed o oldLength n newLength =>
    (slice old o oldLength).map (fun line => (.dropped, line)) ++
      (slice new n newLength).map fun line => (.added, line)

def Hunk.lines (old new : Array Text) (hunk : Hunk) : List (Mark × Text) :=
  hunk.flatMap (Block.lines old new)

end TextMigration.LineDiff
