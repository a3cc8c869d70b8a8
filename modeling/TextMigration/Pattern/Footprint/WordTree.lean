import TextMigration.Pattern.Footprint.Basic

/-!
The tree of a choice between words. Words that begin alike share the nodes of what they begin with. The
order of the choice is kept: once a word ends at a node, the edges that are there stay apart from those
that later words add.
-/

namespace TextMigration.Pattern

structure WordNode where
  finished : List Nat
  edges : List (Nat × Nat)
deriving DecidableEq, Repr

namespace WordNode

def fresh : WordNode := ⟨[], []⟩

def isLeaf (node : WordNode) : Bool := node.edges.isEmpty && node.finished.all (· == 0)

def finish (node : WordNode) : WordNode :=
  if node.isLeaf && !node.finished.isEmpty then node
  else ⟨node.finished ++ [node.edges.length], []⟩

/-- What a node adds to an automaton: a state with a target for each group and for each word that ends
between two, and for each group a state with its edges. -/
def footprint (node : WordNode) (room : Footprint) : Footprint :=
  let groups := (node.finished ++ [node.edges.length]).filter (0 < ·)
  let inner (room : Footprint) (count : Nat) : Footprint :=
    room.add 1 (if count = 1 then 0 else Footprint.edgeSize * count)
  groups.foldl inner (room.add 1 (Footprint.targetSize * (groups.length + node.finished.length)))

end WordNode

abbrev WordTree := Array WordNode

namespace WordTree

def insertFrom : List Nat → Nat → WordTree → WordTree
  | [], place, tree => tree.modify place WordNode.finish
  | byte :: rest, place, tree =>
    match (tree[place]?.getD .fresh).edges.lookup byte with
    | some next => insertFrom rest next tree
    | none =>
      let next := tree.size
      let tree := tree.modify place fun node => { node with edges := (byte, next) :: node.edges }
      insertFrom rest next (tree.push .fresh)

def ofWords (words : List (List Nat)) : WordTree :=
  words.foldl (fun tree word => insertFrom word 0 tree) #[WordNode.fresh]

def building (words : List (List Nat)) : Building := fun room =>
  let inner (room : Footprint) (node : WordNode) : Footprint :=
    if node.isLeaf then room else node.footprint room
  ((ofWords words).foldl inner (room.add 1 0)).checked

end WordTree

end TextMigration.Pattern
