import TextMigration.Pattern.Nesting
import TextMigration.Pattern.Regex
import TextMigration.Unicode.Folding
import TextMigration.Unicode.Named

/-!
From the tree of a pattern to its regex. The flags that are on at a place decide what its characters and
signs mean; they are gone once the regex is built.
-/

namespace TextMigration.Pattern

open Unicode
open Cursor (fail)

structure Flags where
  ignoreCase : Bool
  multiLine : Bool
  dotAll : Bool
  swapGreed : Bool
  unicode : Bool
  crlf : Bool
deriving DecidableEq, Repr

namespace Flags

def initial : Flags := ⟨false, false, false, false, true, false⟩

def set (flags : Flags) (flag : Flag) (on : Bool) : Flags :=
  match flag with
  | .ignoreCase => { flags with ignoreCase := on }
  | .multiLine => { flags with multiLine := on }
  | .dotAll => { flags with dotAll := on }
  | .swapGreed => { flags with swapGreed := on }
  | .unicode => { flags with unicode := on }
  | .crlf => { flags with crlf := on }
  | .extended => flags

def apply (flags : Flags) (list : Switches) : Flags :=
  list.foldl (fun flags (flag, on) => flags.set flag on) flags

end Flags

namespace Lowering

def unicodeShort : ShortClass → Ranges
  | .digit => decimalDigit
  | .space => blank
  | .word => word

def asciiShort : ShortClass → Ranges
  | .digit => AsciiClass.digit.ranges
  | .space => AsciiClass.space.ranges
  | .word => AsciiClass.word.ranges

def negateIf (negated : Bool) (set : Ranges) : Ranges := if negated then set.complement else set

/-- Without Unicode, a class must not reach beyond ASCII: it would match parts of characters. -/
def checked (flags : Flags) (span : Span) (set : Ranges) : Except Fault Ranges :=
  if flags.unicode || set.isAscii then .ok set else fail .invalidUtf8 span

def fold (flags : Flags) (set : Ranges) : Ranges :=
  if !flags.ignoreCase then set else if flags.unicode then set.fold else set.foldAscii

def foldAndNegate (flags : Flags) (negated : Bool) (span : Span) (set : Ranges) :
    Except Fault Ranges :=
  checked flags span (negateIf negated (fold flags set))

def short (flags : Flags) (kind : ShortClass) (negated : Bool) (span : Span) : Except Fault Ranges :=
  checked flags span (negateIf negated (if flags.unicode then unicodeShort kind else asciiShort kind))

def named (name : ClassName) (span : Span) : Except Fault (Ranges × Bool) :=
  let found : Except NameError Ranges × Bool :=
    match name with
    | .lone text => (classNamed text, false)
    | .valued property value differs => (classValued property value, differs)
  match found.1 with
  | .ok set => .ok (set, found.2)
  | .error .unknownProperty => fail .unicodePropertyNotFound span
  | .error .unknownValue => fail .unicodeValueNotFound span

def unicodeClass (flags : Flags) (name : ClassName) (negated : Bool) (span : Span) :
    Except Fault Ranges := do
  if !flags.unicode then fail .unicodeNotAllowed span
  else
    let (set, differs) ← named name span
    foldAndNegate flags (negated != differs) span set

def classPoint (flags : Flags) (written : Literal) : Except Fault Nat :=
  let point := written.char.toNat
  if flags.unicode || point < 128 then .ok point
  else if written.isByte then fail .invalidUtf8 written.span
  else fail .unicodeNotAllowed written.span

mutual

def classSet (flags : Flags) : ClassSet → Except Fault Ranges
  | .empty _ => .ok []
  | .literal written => do
    let point ← classPoint flags written
    return [(point, point)]
  | .range first last => do
    let low ← classPoint flags first
    let high ← classPoint flags last
    return [(low, high)]
  | .short kind negated span => short flags kind negated span
  | .unicode name negated span => unicodeClass flags name negated span
  | .ascii kind negated span => foldAndNegate flags negated span kind.ranges
  | .bracketed negated span inner => do foldAndNegate flags negated span (← classSet flags inner)
  | .union _ items => classSets flags items
  | .binary operator _ left right => do
    let left := fold flags (← classSet flags left)
    let right := fold flags (← classSet flags right)
    return match operator with
      | .intersection => left.intersection right
      | .difference => left.difference right
      | .symmetricDifference => left.symmetricDifference right

def classSets (flags : Flags) : List ClassSet → Except Fault Ranges
  | [] => .ok []
  | item :: rest => return (← classSet flags item).union (← classSets flags rest)

end

def literal (flags : Flags) (written : Literal) : Except Fault Regex :=
  let point := written.char.toNat
  if !flags.unicode && written.isByte && 128 ≤ point then fail .invalidUtf8 written.span
  else if !flags.ignoreCase then .ok (.single point)
  else .ok (.chars (Ranges.ofPoints (if flags.unicode then mates point else asciiMates point)))

def dot (flags : Flags) (span : Span) : Except Fault Regex :=
  if !flags.unicode then fail .invalidUtf8 span
  else if flags.dotAll then .ok (.chars everything)
  else if flags.crlf then .ok (.chars (Ranges.complement [(0xA, 0xA), (0xD, 0xD)]))
  else .ok (.chars (Ranges.complement [(0xA, 0xA)]))

def assertion (flags : Flags) : Assertion → Look
  | .lineStart => if flags.multiLine then .lineStart flags.crlf else .textStart
  | .lineEnd => if flags.multiLine then .lineEnd flags.crlf else .textEnd
  | .textStart => .textStart
  | .textEnd => .textEnd
  | kind => .edge kind flags.unicode

mutual

/-- Works the flags into a tree. Flags switched inside a group hold to its end, across its branches. -/
def tree (flags : Flags) : Tree → Except Fault (Regex × Flags)
  | .empty => .ok (.empty, flags)
  | .literal written => return (← literal flags written, flags)
  | .dot span => return (← dot flags span, flags)
  | .assertion kind => .ok (.look (assertion flags kind), flags)
  | .short kind negated span => return (.chars (← short flags kind negated span), flags)
  | .unicode name negated span => return (.chars (← unicodeClass flags name negated span), flags)
  | .bracketed negated span inner => do
    return (.chars (← foldAndNegate flags negated span (← classSet flags inner)), flags)
  | .switch list => .ok (.empty, flags.apply list)
  | .repetition _ count lazily inner => do
    let (lowered, after) ← tree flags inner
    return (.repeated count (lazily != flags.swapGreed) lowered, after)
  | .capture _ index inner => do
    let (lowered, _) ← tree flags inner
    return (.capture index lowered, flags)
  | .group _ list inner => do
    let (lowered, _) ← tree (flags.apply list) inner
    return (lowered, flags)
  | .sequence _ items => do
    let (lowered, flags) ← trees flags items
    return (.inOrder lowered, flags)
  | .alternatives _ branches => do
    let (lowered, flags) ← trees flags branches
    return (.oneOf lowered, flags)

def trees (flags : Flags) : List Tree → Except Fault (List Regex × Flags)
  | [] => .ok ([], flags)
  | first :: rest => do
    let (one, flags) ← tree flags first
    let (others, flags) ← trees flags rest
    return (one :: others, flags)

end

end Lowering

def Regex.ofPattern (pattern : Text) : Except Fault (Regex × Parsed) := do
  let parsed ← (← parse pattern).checkNesting
  let (regex, _) ← Lowering.tree Flags.initial parsed.tree
  return (regex, parsed)

end TextMigration.Pattern
