import TextMigration.Pattern.Program
import TextMigration.Pattern.Visited

/-!
Running a program over a text. All ways to match go forward together, one character at a time, as threads
in order of preference; two threads at the same instruction and place would go on alike, so only the
preferred one is kept. The match that counts begins first, and of those that begin there it is the one
that the most preferred thread arrives at, not the longest. A search begins a new thread at every place
until there is a match; it prefers those that began earlier.
-/

namespace TextMigration.Pattern

structure Place where
  before : Option Char
  after : Option Char
  index : Nat
deriving DecidableEq, Repr

/-- One way to match so far: the next instruction, where it began, and the places noted, the latest
first. -/
structure Thread where
  next : Nat
  start : Nat
  slots : List (Nat × Nat)
deriving DecidableEq, Repr

structure Outcome where
  start : Nat
  stop : Nat
  slots : List (Nat × Nat)
deriving DecidableEq, Repr

namespace Thread

def starting (index : Nat) : Thread := ⟨0, index, []⟩

def moves (program : Array Instr) (place : Place) (thread : Thread) : List Thread :=
  match program[thread.next]? with
  | some (.jump target) => [{ thread with next := target }]
  | some (.branch first second) => [{ thread with next := first }, { thread with next := second }]
  | some (.save slot) =>
    [{ thread with next := thread.next + 1, slots := (slot, place.index) :: thread.slots }]
  | some (.look condition) =>
    if condition.holds place.before place.after then [{ thread with next := thread.next + 1 }] else []
  | _ => []

def isSettled (program : Array Instr) (thread : Thread) : Bool :=
  match program[thread.next]? with
  | some (.chars _) => true
  | some .done => true
  | _ => false

/-- Follows every thread to an instruction that takes a character or ends the match. `pending` is the
stack of threads in order of preference, `seen` the instructions already reached at this place. Each
instruction adds two threads at the most and does so once, which bounds `fuel`. -/
def settle (program : Array Instr) (place : Place) : Nat → Visited → List Thread → List Thread
  | 0, _, _ => []
  | _ + 1, _, [] => []
  | fuel + 1, seen, thread :: pending =>
    if seen.has thread.next then settle program place fuel seen pending
    else
      let others := settle program place fuel (seen.add thread.next) (thread.moves program place ++ pending)
      if thread.isSettled program then thread :: others else others

def settled (program : Array Instr) (place : Place) (threads : List Thread) : List Thread :=
  settle program place (threads.length + 2 * program.size + 1) .none threads

def take? (program : Array Instr) (c : Char) (thread : Thread) : Option Thread :=
  match program[thread.next]? with
  | some (.chars set) => if set.has c.toNat then some { thread with next := thread.next + 1 } else none
  | _ => none

def isDone (program : Array Instr) (thread : Thread) : Bool := program[thread.next]? == some .done

end Thread

/-- Goes on from settled threads. A thread that arrives gives the best match so far, and ends those that
are less preferred; those before it may still find a better one. While it is `seeking` and has no match,
a thread begins at every place. -/
def follow (program : Array Instr) (seeking : Bool) :
    Nat → List Thread → Option Outcome → Text → Option Outcome
  | index, threads, best, text =>
    let running := threads.takeWhile fun thread => !thread.isDone program
    let best :=
      match threads.find? fun thread => thread.isDone program with
      | some thread => some ⟨thread.start, index, thread.slots⟩
      | none => best
    match text with
    | [] => best
    | c :: rest =>
      let fresh := if seeking && best.isNone then [Thread.starting (index + 1)] else []
      match running.filterMap (fun thread => thread.take? program c) ++ fresh with
      | [] => best
      | moved =>
        let place : Place := ⟨some c, rest.head?, index + 1⟩
        follow program seeking (index + 1) (Thread.settled program place moved) best rest

def matchAt (program : Array Instr) (index : Nat) (before : Option Char) (text : Text) : Option Outcome :=
  let place : Place := ⟨before, text.head?, index⟩
  follow program false index (Thread.settled program place [.starting index]) none text

def search (program : Array Instr) (index : Nat) (before : Option Char) (text : Text) : Option Outcome :=
  let place : Place := ⟨before, text.head?, index⟩
  follow program true index (Thread.settled program place [.starting index]) none text

/-- The first match that takes something and begins after the next `skip` characters. A place where the
preferred match is empty is passed over. -/
def searchOn (program : Array Instr) : Nat → Nat → Option Char → Text → Option Outcome
  | _, _, _, [] => none
  | skip + 1, index, _, c :: rest => searchOn program skip (index + 1) (some c) rest
  | 0, index, before, c :: rest =>
    match search program index before (c :: rest) with
    | none => none
    | some found =>
      if found.start < found.stop then some found
      else searchOn program (found.start - index) (index + 1) (some c) rest

def firstMatch (program : Array Instr) (before : Option Char) (text : Text) : Option (Text × Outcome × Text) :=
  (searchOn program 0 0 before text).map fun found => (text.take found.start, found, text.drop found.stop)

end TextMigration.Pattern
