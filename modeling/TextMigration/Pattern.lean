import TextMigration.Pattern.Footprint
import TextMigration.Pattern.Search
import TextMigration.Pattern.Template

/-!
Compiled patterns, and what a match of one gives. Building a pattern either fails with the text that
explains why or gives a program that can be run on any text.
-/

namespace TextMigration

structure Pattern where
  source : Text
  program : Array Pattern.Instr
  names : List (Text × Nat)
deriving DecidableEq, Repr

namespace Pattern

inductive Refusal where
  | fault (what : Fault)
  | tooLarge
deriving DecidableEq, Repr

def Refusal.message (source : Text) : Refusal → Text
  | fault what => what.render source
  | tooLarge => s!"Compiled regex exceeds size limit of {Footprint.limit} bytes.".toList

def compile (source : Text) : Except Refusal Pattern :=
  match Regex.ofPattern source with
  | .error what => .error (.fault what)
  | .ok (regex, parsed) =>
    if regex.fits then .ok ⟨source, Program.ofRegex regex, parsed.names⟩ else .error .tooLarge

/-- What was matched: the whole of it, and the places in it noted on the way, the latest first. -/
structure Match where
  text : Text
  slots : List (Nat × Nat)
deriving DecidableEq, Repr

def Match.group? (found : Match) (index : Nat) : Option Text :=
  if index = 0 then some found.text
  else do
    let start ← found.slots.lookup (2 * index)
    let stop ← found.slots.lookup (2 * index + 1)
    return (found.text.drop start).take (stop - start)

/-- The text that a reference stands for; nothing if there is no such group or it took no part. -/
def Match.fill (names : List (Text × Nat)) (found : Match) : GroupRef → Text
  | .number index => (found.group? index).getD []
  | .name text => ((names.lookup text).bind found.group?).getD []

def first? (pattern : Pattern) (before : Option Char) (text : Text) : Option (Text × Match × Text) :=
  (firstMatch pattern.program before text).map fun (gap, found, rest) =>
    let slots := found.slots.map fun (slot, place) => (slot, place - found.start)
    (gap, ⟨(text.drop found.start).take (found.stop - found.start), slots⟩, rest)

end Pattern

end TextMigration
