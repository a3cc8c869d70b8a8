import TextMigration.Pattern.Fault
import TextMigration.Unicode.Property

/-!
A place in a pattern that is being read: what is left of the pattern, how much of it is gone, and whether
blanks and comments stand for nothing.
-/

namespace TextMigration.Pattern

open Unicode (isBlank)

structure Cursor where
  place : Nat
  rest : Text
  extended : Bool
deriving DecidableEq, Repr

namespace Cursor

def ofPattern (pattern : Text) : Cursor := ⟨0, pattern, false⟩

def atEnd (c : Cursor) : Bool := c.rest.isEmpty

def here (c : Cursor) : Span := ⟨c.place, c.place⟩

def charSpan (c : Cursor) : Span := ⟨c.place, c.place + 1⟩

def since (c : Cursor) (start : Nat) : Span := ⟨start, c.place⟩

def fail {α : Type} (reason : Reason) (span : Span) : Except Fault α := .error ⟨reason, span, none⟩

def next (c : Cursor) : Cursor :=
  match c.rest with
  | [] => c
  | _ :: rest => { c with place := c.place + 1, rest := rest }

def advance (c : Cursor) : Nat → Cursor
  | 0 => c
  | count + 1 => c.next.advance count

/-- How many characters at the front are blanks and comments; the flag tells whether a comment is open. -/
def blankCount : Bool → Text → Nat
  | _, [] => 0
  | true, c :: rest => 1 + blankCount (c != '\n') rest
  | false, c :: rest =>
    if isBlank c then 1 + blankCount false rest
    else if c = '#' then 1 + blankCount true rest
    else 0

def skip (c : Cursor) : Cursor := if c.extended then c.advance (blankCount false c.rest) else c

def nextSkip (c : Cursor) : Cursor := c.next.skip

def pastBlanks (c : Cursor) : Cursor := c.advance (c.rest.takeWhile isBlank).length

def accept? (c : Cursor) (lead : String) : Option Cursor :=
  (Text.after? lead.toList c.rest).map fun _ => c.advance lead.length

def sees (c : Cursor) (char : Char) : Bool := c.rest.head? == some char

def firstSolid : Bool → Text → Option Char
  | _, [] => none
  | comment, c :: rest =>
    if isBlank c then firstSolid comment rest
    else if !comment && c == '#' then firstSolid true rest
    else some c

def second? (c : Cursor) : Option Char :=
  match c.rest.drop 1 with
  | [] => none
  | d :: rest => if c.extended then some ((firstSolid false (d :: rest)).getD d) else some d

def run (kind : Char → Bool) : Nat → Cursor → Text × Cursor
  | 0, c => ([], c)
  | fuel + 1, c =>
    match c.rest with
    | [] => ([], c)
    | d :: _ =>
      if kind d then
        let (text, after) := run kind fuel c.nextSkip
        (d :: text, after)
      else ([], c)

def takeRun (c : Cursor) (kind : Char → Bool) : Text × Cursor := run kind c.rest.length c

end Cursor

end TextMigration.Pattern
