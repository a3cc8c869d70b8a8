import TextMigration.Pattern.Cursor
import TextMigration.Pattern.Tree
import TextMigration.Text.Digit

/-!
Escapes and the other parts of a pattern that are one unit: literals, the dot, assertions and lettered
classes. They may stand alone or inside brackets.
-/

namespace TextMigration.Pattern

structure Atom where
  tree : Tree
  span : Span
deriving Repr

namespace Atom

def literal (char : Char) (span : Span) (isByte : Bool) : Atom := ⟨.literal ⟨char, span, isByte⟩, span⟩

end Atom

namespace Escape

open Cursor (fail)
open Text (isDigitOf charOfHex?)

def isMeta (c : Char) : Bool := "\\.+*?()|[]\x7b\x7d^$#&-~".toList.contains c

/-- A backslash before the character only says that it stands for itself. -/
def isPlain (c : Char) : Bool := isMeta c || (c.toNat < 128 && !c.isAlphanum && c != '<' && c != '>')

def fixedDigits : Nat → Cursor → Except Fault (Text × Cursor)
  | 0, c => .ok ([], c)
  | count + 1, c =>
    match c.rest with
    | [] => fail .escapeUnfinished c.here
    | d :: _ =>
      if !isDigitOf 16 d then fail .escapeHexInvalidDigit c.charSpan
      else do
        let (rest, after) ← fixedDigits count c.nextSkip
        return (d :: rest, after)

def hex (start count : Nat) (c : Cursor) : Except Fault (Atom × Cursor) := do
  match c.rest with
  | [] => fail .escapeUnfinished c.here
  | '\x7b' :: _ =>
    let inner := c.nextSkip
    let (digits, after) := inner.takeRun fun d => isDigitOf 16 d
    if after.atEnd then fail .escapeUnfinished (after.since c.place)
    else if !after.sees '\x7d' then fail .escapeHexInvalidDigit after.charSpan
    else
      let done := after.nextSkip
      if digits.isEmpty then fail .escapeHexEmpty (done.since c.place)
      else
        match charOfHex? digits with
        | none => fail .escapeHexInvalid ⟨c.place + 1, after.place⟩
        | some char => return (.literal char (done.since start) false, done)
  | _ =>
    let (digits, done) ← fixedDigits count c
    match charOfHex? digits with
    | none => fail .escapeHexInvalid (done.since c.place)
    | some char => return (.literal char (done.since start) (count == 2 && char.toNat < 256), done)

def splitName (separator : String) (text : Text) : Option (Text × Text) := Text.cut? separator.toList text

def className (text : Text) : ClassName :=
  match splitName "!=" text with
  | some (property, value) => .valued property value true
  | none =>
    match splitName ":" text with
    | some (property, value) => .valued property value false
    | none =>
      match splitName "=" text with
      | some (property, value) => .valued property value false
      | none => .lone text

def unicodeClass (start : Nat) (negated : Bool) (c : Cursor) : Except Fault (Atom × Cursor) := do
  match c.rest with
  | [] => fail .escapeUnfinished c.here
  | '\x7b' :: _ =>
    let (name, after) := c.nextSkip.takeRun fun d => d != '\x7d'
    if after.atEnd then fail .escapeUnfinished after.here
    else
      let span := after.next.since start
      return (⟨.unicode (className name) negated span, span⟩, after.next)
  | '\\' :: _ => fail .unicodeClassInvalid c.charSpan
  | d :: _ =>
    let span := c.nextSkip.since start
    return (⟨.unicode (.lone [d]) negated span, span⟩, c.nextSkip)

def boundaryNamed? (name : Text) : Option Assertion :=
  if name = "start".toList then some .wordStart
  else if name = "end".toList then some .wordEnd
  else if name = "start-half".toList then some .wordStartHalf
  else if name = "end-half".toList then some .wordEndHalf
  else none

def isBoundaryLetter (c : Char) : Bool := c.isAlpha || c == '-'

/-- What follows a word boundary. Braces around letters name a special boundary; any other brace is
left to be read as a count. -/
def boundary (start : Nat) (c : Cursor) : Except Fault (Assertion × Cursor) := do
  if !c.sees '\x7b' then return (.wordBoundary, c)
  else
    let inner := c.nextSkip
    match inner.rest with
    | [] => fail .wordBoundaryUnfinished (inner.since start)
    | d :: _ =>
      if !isBoundaryLetter d then return (.wordBoundary, c)
      else
        let (name, after) := inner.takeRun isBoundaryLetter
        if !after.sees '\x7d' then fail .wordBoundaryUnclosed (after.since c.place)
        else
          match boundaryNamed? name with
          | none => fail .wordBoundaryUnrecognized ⟨inner.place, after.place⟩
          | some kind => return (kind, after.next)

def special? : Char → Option Char
  | 'a' => some '\x07'
  | 'f' => some '\x0c'
  | 't' => some '\t'
  | 'n' => some '\n'
  | 'r' => some '\r'
  | 'v' => some '\x0b'
  | _ => none

def assertion? : Char → Option Assertion
  | 'A' => some .textStart
  | 'z' => some .textEnd
  | 'B' => some .notWordBoundary
  | '<' => some .wordStart
  | '>' => some .wordEnd
  | _ => none

def short? : Char → Option (ShortClass × Bool)
  | 'd' => some (.digit, false)
  | 'D' => some (.digit, true)
  | 's' => some (.space, false)
  | 'S' => some (.space, true)
  | 'w' => some (.word, false)
  | 'W' => some (.word, true)
  | _ => none

def hexCount? : Char → Option Nat
  | 'x' => some 2
  | 'u' => some 4
  | 'U' => some 8
  | _ => none

def read (c : Cursor) : Except Fault (Atom × Cursor) := do
  let start := c.place
  let inner := c.next
  match inner.rest with
  | [] => fail .escapeUnfinished (inner.since start)
  | d :: _ =>
    let done := inner.next
    let span := done.since start
    if d.isDigit then fail .backreference span
    else if let some count := hexCount? d then hex start count inner.nextSkip
    else if d = 'p' ∨ d = 'P' then unicodeClass start (d == 'P') inner.nextSkip
    else if let some (kind, negated) := short? d then return (⟨.short kind negated span, span⟩, done)
    else if isPlain d then return (.literal d span false, done)
    else if let some char := special? d then return (.literal char span false, done)
    else if let some kind := assertion? d then return (⟨.assertion kind, span⟩, done)
    else if d = 'b' then
      let (kind, after) ← boundary start done
      return (⟨.assertion kind, after.since start⟩, after)
    else fail .escapeUnrecognized span

end Escape

def Atom.read (c : Cursor) : Except Fault (Atom × Cursor) :=
  match c.rest with
  | [] => .ok (⟨.empty, c.here⟩, c)
  | '\\' :: _ => Escape.read c
  | '.' :: _ => .ok (⟨.dot c.charSpan, c.charSpan⟩, c.next)
  | '^' :: _ => .ok (⟨.assertion .lineStart, c.charSpan⟩, c.next)
  | '$' :: _ => .ok (⟨.assertion .lineEnd, c.charSpan⟩, c.next)
  | d :: _ => .ok (.literal d c.charSpan false, c.next)

end TextMigration.Pattern
