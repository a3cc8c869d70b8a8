import TextMigration.Text.Basic

/-!
What turns one list of lines into another, stretch by stretch. Places count lines from zero, in the old
list and in the new one. A script says of every line of both lists whether it is kept, dropped or added.
-/

namespace TextMigration

/-- The lines with their endings. A newline, a carriage return, or both in this order end a line; what is
left at the end is a line without one. -/
def Text.fullLines : Text → List Text
  | [] => []
  | '\n' :: rest => ['\n'] :: fullLines rest
  | '\r' :: '\n' :: rest => ['\r', '\n'] :: fullLines rest
  | '\r' :: rest => ['\r'] :: fullLines rest
  | c :: rest =>
    match fullLines rest with
    | [] => [[c]]
    | line :: lines => (c :: line) :: lines

namespace LineDiff

inductive Edit where
  | keep (old new length : Nat)
  /-- Lines of the old list, and where they would stand in the new one. -/
  | drop (old length new : Nat)
  /-- Lines of the new list, and where they would have stood in the old one. -/
  | add (old new length : Nat)
deriving DecidableEq, Repr

def sharedStart {α : Type} [DecidableEq α] : List α → List α → Nat
  | a :: as, b :: bs => if a = b then sharedStart as bs + 1 else 0
  | _, _ => 0

def sharedEnd {α : Type} [DecidableEq α] (as bs : List α) : Nat := sharedStart as.reverse bs.reverse

def slice {α : Type} (items : Array α) (start length : Nat) : List α :=
  (items.extract start (start + length)).toList

end LineDiff

end TextMigration
