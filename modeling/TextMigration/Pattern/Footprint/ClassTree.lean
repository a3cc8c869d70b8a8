import Std.Data.HashMap
import TextMigration.Pattern.Footprint.Basic
import TextMigration.Unicode.ByteRange

/-!
The automaton of a class of characters over the bytes of UTF-8. Forward, characters that begin alike share
states, and so do those that end alike; backward, only those whose bytes are the same up to a place.
Equal parts are found again through a table with a fixed number of slots, where a part takes the place of
any other that has the same slot, so that a few of them are built twice.
-/

namespace TextMigration.Pattern

open Unicode (ByteRange)

/-- What keeps the parts that were built by their slots, with the states they have. -/
abbrev Kept (Part : Type) := Std.HashMap Nat (Part × Nat)

namespace Kept

variable {Part : Type} [BEq Part]

def find? (kept : Kept Part) (slot : Nat) (part : Part) : Option Nat :=
  match Std.HashMap.get? kept slot with
  | some (other, state) => if other == part then some state else none
  | none => none

def slot (count : UInt64) (numbers : List Nat) : Nat :=
  let mix (hash : UInt64) (number : Nat) : UInt64 := (hash ^^^ number.toUInt64) * 1099511628211
  (numbers.foldl mix 14695981039346656037 % count).toNat

end Kept

structure Edge where
  range : ByteRange
  next : Nat
deriving DecidableEq, Repr

structure ClassTree (Part : Type) where
  room : Footprint
  kept : Kept Part

namespace ClassTree

def node (edges : List Edge) (tree : ClassTree (List Edge)) : Nat × ClassTree (List Edge) :=
  let slot := Kept.slot 10000 (edges.flatMap fun edge => [edge.range.1, edge.range.2, edge.next])
  match tree.kept.find? slot edges with
  | some state => (state, tree)
  | none =>
    let state := tree.room.states
    let room := tree.room.add 1 (Footprint.edgeSize * edges.length)
    (state, ⟨room, tree.kept.insert slot (edges, state)⟩)

def forwardFrom (target : Nat) :
    Nat → List (List ByteRange) → ClassTree (List Edge) → Nat × ClassTree (List Edge)
  | 0, _, tree => (target, tree)
  | depth + 1, sequences, tree =>
    let step (state : List Edge × ClassTree (List Edge)) (group : List (List ByteRange)) :
        List Edge × ClassTree (List Edge) :=
      match group with
      | (range :: rest) :: others =>
        let (next, tree) :=
          if rest.isEmpty then (target, state.2)
          else forwardFrom target depth (rest :: others.map (List.drop 1)) state.2
        (⟨range, next⟩ :: state.1, tree)
      | _ => state
    let (edges, tree) := (sequences.splitBy fun a b => a.head? == b.head?).foldl step ([], tree)
    tree.node edges.reverse

def forward (sequences : List (List ByteRange)) (room : Footprint) : Footprint :=
  (forwardFrom room.states 4 sequences ⟨room.add 1 0, ∅⟩).2.room

def backwardStep (edge : Edge) (tree : ClassTree Edge) : Nat × ClassTree Edge :=
  let slot := Kept.slot 1000 [edge.next, edge.range.1, edge.range.2]
  match tree.kept.find? slot edge with
  | some state => (state, tree)
  | none => (tree.room.states, ⟨tree.room.add 1 0, tree.kept.insert slot (edge, tree.room.states)⟩)

def backward (sequences : List (List ByteRange)) (room : Footprint) : Footprint :=
  let stop := room.states + 1
  let step (tree : ClassTree Edge) (sequence : List ByteRange) : ClassTree Edge :=
    let start : Nat × ClassTree Edge := (stop, { tree with room := tree.room.add 0 Footprint.targetSize })
    (sequence.foldl (fun state range => backwardStep ⟨range, state.1⟩ state.2) start).2
  (sequences.foldl step ⟨room.add 2 0, ∅⟩).room

end ClassTree

end TextMigration.Pattern
