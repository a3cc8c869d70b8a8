import TextMigration.Pattern.Fault
import TextMigration.Unicode.Range

/-!
The syntax tree of a pattern. It keeps what was written, with the places that a later complaint may have
to point at; what flags make of it is decided when it is lowered.
-/

namespace TextMigration.Pattern

open Unicode (Ranges)

inductive Flag where
  | ignoreCase
  | multiLine
  | dotAll
  | swapGreed
  | unicode
  | crlf
  | extended
deriving DecidableEq, Repr

abbrev Switches := List (Flag × Bool)

inductive Assertion where
  | lineStart
  | lineEnd
  | textStart
  | textEnd
  | wordBoundary
  | notWordBoundary
  | wordStart
  | wordEnd
  | wordStartHalf
  | wordEndHalf
deriving DecidableEq, Repr

/-- A character as written. A two-digit hexadecimal escape names a byte where Unicode is off. -/
structure Literal where
  char : Char
  span : Span
  isByte : Bool
deriving DecidableEq, Repr

inductive ShortClass where
  | digit
  | space
  | word
deriving DecidableEq, Repr

inductive ClassName where
  | lone (name : Text)
  | valued (property value : Text) (differs : Bool)
deriving DecidableEq, Repr

inductive AsciiClass where
  | alnum | alpha | ascii | blank | cntrl | digit | graph | lower | print | punct | space | upper
  | word | xdigit
deriving DecidableEq, Repr

def AsciiClass.ranges : AsciiClass → Ranges
  | .alnum => [(0x30, 0x39), (0x41, 0x5A), (0x61, 0x7A)]
  | .alpha => [(0x41, 0x5A), (0x61, 0x7A)]
  | .ascii => [(0x0, 0x7F)]
  | .blank => [(0x9, 0x9), (0x20, 0x20)]
  | .cntrl => [(0x0, 0x1F), (0x7F, 0x7F)]
  | .digit => [(0x30, 0x39)]
  | .graph => [(0x21, 0x7E)]
  | .lower => [(0x61, 0x7A)]
  | .print => [(0x20, 0x7E)]
  | .punct => [(0x21, 0x2F), (0x3A, 0x40), (0x5B, 0x60), (0x7B, 0x7E)]
  | .space => [(0x9, 0xD), (0x20, 0x20)]
  | .upper => [(0x41, 0x5A)]
  | .word => [(0x30, 0x39), (0x41, 0x5A), (0x5F, 0x5F), (0x61, 0x7A)]
  | .xdigit => [(0x30, 0x39), (0x41, 0x46), (0x61, 0x66)]

inductive SetOperator where
  | intersection
  | difference
  | symmetricDifference
deriving DecidableEq, Repr

inductive ClassSet where
  | empty (span : Span)
  | literal (written : Literal)
  | range (first last : Literal)
  | short (kind : ShortClass) (negated : Bool) (span : Span)
  | unicode (name : ClassName) (negated : Bool) (span : Span)
  | ascii (kind : AsciiClass) (negated : Bool) (span : Span)
  | bracketed (negated : Bool) (span : Span) (inner : ClassSet)
  | union (span : Span) (items : List ClassSet)
  | binary (operator : SetOperator) (span : Span) (left right : ClassSet)
deriving Repr

def ClassSet.span : ClassSet → Span
  | empty span => span
  | literal written => written.span
  | range first last => ⟨first.span.start, last.span.stop⟩
  | short _ _ span => span
  | unicode _ _ span => span
  | ascii _ _ span => span
  | bracketed _ span _ => span
  | union span _ => span
  | binary _ span _ _ => span

/-- Items that are written one after another; they are given last first. If there are none, nothing stands
at the given place. -/
def ClassSet.ofItems (place : Nat) : List ClassSet → ClassSet
  | [] => empty ⟨place, place⟩
  | [item] => item
  | last :: earlier =>
    let items := (last :: earlier).reverse
    union ⟨(items.head?.map fun item => item.span.start).getD place, last.span.stop⟩ items

structure Count where
  least : Nat
  most : Option Nat
deriving DecidableEq, Repr

inductive Tree where
  | empty
  | literal (written : Literal)
  | dot (span : Span)
  | assertion (kind : Assertion)
  | short (kind : ShortClass) (negated : Bool) (span : Span)
  | unicode (name : ClassName) (negated : Bool) (span : Span)
  | bracketed (negated : Bool) (span : Span) (inner : ClassSet)
  | switch (switches : Switches)
  | repetition (span : Span) (count : Count) (lazily : Bool) (inner : Tree)
  | capture (span : Span) (index : Nat) (inner : Tree)
  | group (span : Span) (switches : Switches) (inner : Tree)
  | sequence (span : Span) (items : List Tree)
  | alternatives (span : Span) (branches : List Tree)
deriving Repr

structure Parsed where
  tree : Tree
  groups : Nat
  names : List (Text × Nat)
deriving Repr

end TextMigration.Pattern
