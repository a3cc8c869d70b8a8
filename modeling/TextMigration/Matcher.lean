import TextMigration.Text.Quoted
import TextMigration.Text.Line
import TextMigration.Pattern

/-!
What a rule looks for. A matcher cuts a text into spans and the gaps between them: each span is the first
one after the span before it, none is empty, and gaps and spans together are the text again.
-/

namespace TextMigration

inductive Matcher where
  | exact (needle : Text)
  /-- A block: from a start anchor through the first end anchor after it. -/
  | delimited (start stop : Text)
  | pattern (pattern : Pattern)
deriving DecidableEq, Repr

/-- A place where a matcher found something: the text since the span before, and the span. For a pattern
the match tells the groups. -/
structure Hit where
  gap : Text
  span : Text
  found : Option Pattern.Match
deriving DecidableEq, Repr

structure Cuts where
  hits : List Hit
  tail : Text
deriving DecidableEq, Repr

namespace Cuts

def join (cuts : Cuts) : Text := cuts.hits.flatMap (fun hit => hit.gap ++ hit.span) ++ cuts.tail

end Cuts

namespace Matcher

def kind : Matcher → String
  | exact _ => "exact"
  | delimited _ _ => "delimited"
  | pattern _ => "pattern"

def literalTarget? : Matcher → Option Text
  | exact needle => some needle
  | delimited start _ => some start
  | pattern _ => none

def isBlank : Matcher → Bool
  | exact needle => needle.isEmpty
  | delimited start stop => start.isEmpty || stop.isEmpty
  | pattern p => p.source.isEmpty

/-- The first span of a text and the rest after it, given the character before the text. A blank matcher
finds nothing. -/
def first? (matcher : Matcher) (before : Option Char) (text : Text) : Option (Hit × Text) :=
  match matcher with
  | exact needle =>
    if needle.isEmpty then none
    else (Text.cut? needle text).map fun (gap, rest) => (⟨gap, needle, none⟩, rest)
  | delimited start stop =>
    if start.isEmpty || stop.isEmpty then none
    else do
      let (gap, inner) ← Text.cut? start text
      let (body, rest) ← Text.cut? stop inner
      return (⟨gap, start ++ body ++ stop, none⟩, rest)
  | pattern p => (p.first? before text).map fun (gap, found, rest) => (⟨gap, found.text, some found⟩, rest)

/-- Cuts again and again; a span takes at least one character, so `fuel` need not exceed the length. -/
def cutFrom (matcher : Matcher) : Nat → Option Char → Text → Cuts
  | 0, _, text => ⟨[], text⟩
  | fuel + 1, before, text =>
    match matcher.first? before text with
    | none => ⟨[], text⟩
    | some (hit, rest) =>
      let cuts := cutFrom matcher fuel hit.span.getLast? rest
      ⟨hit :: cuts.hits, cuts.tail⟩

def cut (matcher : Matcher) (text : Text) : Cuts := matcher.cutFrom text.length none text

def isMatch (matcher : Matcher) (text : Text) : Bool := !(matcher.cut text).hits.isEmpty

def display : Matcher → Text
  | exact needle => "exact ".toList ++ needle.preview.quoted
  | delimited start stop =>
    "delimited ".toList ++ start.preview.quoted ++ " .. ".toList ++ stop.preview.quoted
  | pattern p => "pattern /".toList ++ p.source ++ ['/']

end Matcher

end TextMigration
