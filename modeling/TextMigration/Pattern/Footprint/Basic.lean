/-!
The room that an automaton takes while it is built. Every state takes a fixed number of bytes; the edges
of states with several of them take more. Building stops once the room is exceeded.
-/

namespace TextMigration.Pattern

structure Footprint where
  states : Nat
  edges : Nat
deriving DecidableEq, Repr

namespace Footprint

def limit : Nat := 10485760

def stateSize : Nat := 32

def edgeSize : Nat := 8

def targetSize : Nat := 4

def empty : Footprint := ⟨0, 0⟩

def total (room : Footprint) : Nat := stateSize * room.states + room.edges

def add (room : Footprint) (states edges : Nat) : Footprint := ⟨room.states + states, room.edges + edges⟩

def checked (room : Footprint) : Option Footprint := if limit < room.total then none else some room

end Footprint

/-- A part of an automaton that is added to what is there; there may be no room for it. -/
abbrev Building := Footprint → Option Footprint

namespace Building

def plain (states edges : Nat) : Building := fun room => (room.add states edges).checked

def andThen (first second : Building) : Building := fun room => (first room).bind second

def times : Nat → Building → Building
  | 0, _ => some
  | count + 1, part => fun room =>
    match part room with
    | none => none
    | some room => times count part room

end Building

end TextMigration.Pattern
