import TextMigration.Text.Line

/-!
What can be wrong with a pattern, where, and how it is shown: the pattern itself, a row of carets under
the place, and the reason. A pattern of several lines is shown between rules with its lines numbered.
-/

namespace TextMigration.Pattern

/-- Part of a pattern, from one place up to another; both count characters. -/
structure Span where
  start : Nat
  stop : Nat
deriving DecidableEq, Repr

inductive Reason where
  | classEscapeInvalid
  | classRangeInvalid
  | classRangeLiteral
  | classUnclosed
  | decimalEmpty
  | decimalInvalid
  | escapeHexEmpty
  | escapeHexInvalid
  | escapeHexInvalidDigit
  | escapeUnfinished
  | escapeUnrecognized
  | flagDanglingNegation
  | flagDuplicate
  | flagRepeatedNegation
  | flagMissing
  | flagUnrecognized
  | groupNameDuplicate
  | groupNameEmpty
  | groupNameInvalid
  | groupNameUnclosed
  | groupUnclosed
  | groupUnopened
  | repetitionCountEmpty
  | repetitionCountInvalid
  | repetitionCountUnclosed
  | repetitionMissing
  | wordBoundaryUnclosed
  | wordBoundaryUnrecognized
  | wordBoundaryUnfinished
  | unicodeClassInvalid
  | nestedTooDeep
  | unicodeNotAllowed
  | unicodePropertyNotFound
  | unicodeValueNotFound
  | invalidUtf8
  | backreference
  | lookAround
deriving DecidableEq, Repr

def nestLimit : Nat := 250

def Reason.message : Reason → String
  | classEscapeInvalid => "invalid escape sequence found in character class"
  | classRangeInvalid => "invalid character class range, the start must be <= the end"
  | classRangeLiteral => "invalid range boundary, must be a literal"
  | classUnclosed => "unclosed character class"
  | decimalEmpty => "decimal literal empty"
  | decimalInvalid => "decimal literal invalid"
  | escapeHexEmpty => "hexadecimal literal empty"
  | escapeHexInvalid => "hexadecimal literal is not a Unicode scalar value"
  | escapeHexInvalidDigit => "invalid hexadecimal digit"
  | escapeUnfinished => "incomplete escape sequence, reached end of pattern prematurely"
  | escapeUnrecognized => "unrecognized escape sequence"
  | flagDanglingNegation => "dangling flag negation operator"
  | flagDuplicate => "duplicate flag"
  | flagRepeatedNegation => "flag negation operator repeated"
  | flagMissing => "expected flag but got end of regex"
  | flagUnrecognized => "unrecognized flag"
  | groupNameDuplicate => "duplicate capture group name"
  | groupNameEmpty => "empty capture group name"
  | groupNameInvalid => "invalid capture group character"
  | groupNameUnclosed => "unclosed capture group name"
  | groupUnclosed => "unclosed group"
  | groupUnopened => "unopened group"
  | repetitionCountEmpty => "repetition quantifier expects a valid decimal"
  | repetitionCountInvalid => "invalid repetition count range, the start must be <= the end"
  | repetitionCountUnclosed => "unclosed counted repetition"
  | repetitionMissing => "repetition operator missing expression"
  | wordBoundaryUnclosed =>
    "special word boundary assertion is either unclosed or contains an invalid character"
  | wordBoundaryUnrecognized =>
    "unrecognized special word boundary assertion, valid choices are: start, end, start-half or end-half"
  | wordBoundaryUnfinished =>
    "found either the beginning of a special word boundary or a bounded repetition on a \\b with " ++
      "an opening brace, but no closing brace"
  | unicodeClassInvalid => "invalid Unicode character class"
  | nestedTooDeep => s!"exceed the maximum number of nested parentheses/brackets ({nestLimit})"
  | unicodeNotAllowed => "Unicode not allowed here"
  | unicodePropertyNotFound => "Unicode property not found"
  | unicodeValueNotFound => "Unicode property value not found"
  | invalidUtf8 => "pattern can match invalid UTF-8"
  | backreference => "backreferences are not supported"
  | lookAround => "look-around, including look-ahead and look-behind, is not supported"

structure Fault where
  reason : Reason
  span : Span
  earlier : Option Span
deriving DecidableEq, Repr

def position (pattern : Text) (place : Nat) : Nat × Nat :=
  (pattern.take place).foldl (fun (line, column) c => if c = '\n' then (line + 1, 0) else (line, column + 1))
    (0, 0)

structure Mark where
  line : Nat
  first : Nat
  stop : Nat
deriving DecidableEq, Repr

namespace Fault

def spans (fault : Fault) : List Span :=
  match fault.earlier with
  | none => [fault.span]
  | some other => if other.start ≤ fault.span.start then [other, fault.span] else [fault.span, other]

def mark? (pattern : Text) (span : Span) : Option Mark :=
  let (line, first) := position pattern span.start
  let (last, stop) := position pattern span.stop
  if line = last then some ⟨line, first, stop⟩ else none

/-- Carets under the marks of one line, from a column on. An empty mark gets one caret. -/
def carets : Nat → List Mark → Text
  | _, [] => []
  | column, mark :: rest =>
    let count := max 1 (mark.stop - mark.first)
    List.replicate (mark.first - column) ' ' ++ List.replicate count '^' ++
      carets (max column mark.first + count) rest

def annotate (label : Nat → Text) (padding : Nat) (marks : List Mark) : Nat → List Text → Text
  | _, [] => []
  | index, line :: rest =>
    let here := marks.filter fun mark => mark.line = index
    label index ++ line ++ ['\n'] ++
      (if here.isEmpty then [] else List.replicate padding ' ' ++ carets 0 here ++ ['\n']) ++
      annotate label padding marks (index + 1) rest

def lineNote (pattern : Text) (span : Span) : Text :=
  let (line, first) := position pattern span.start
  let (last, stop) := position pattern span.stop
  s!"on line {line + 1} (column {first + 1}) through line {last + 1} (column {stop})\n".toList

def render (pattern : Text) (fault : Fault) : Text :=
  let lines := pattern.lines
  let marks := fault.spans.filterMap (mark? pattern)
  let count := lines.length + (if pattern.getLast? = some '\n' then 1 else 0)
  let width := (Nat.toDigits 10 count).length
  let label (index : Nat) : Text :=
    if count ≤ 1 then [' ', ' ', ' ', ' ']
    else
      let number := Nat.toDigits 10 (index + 1)
      List.replicate (width - number.length) ' ' ++ number ++ [':', ' ']
  let shown := annotate label (if count ≤ 1 then 4 else width + 2) marks 0 lines
  let reason := "error: ".toList ++ fault.reason.message.toList
  if pattern.contains ['\n'] then
    let rule := List.replicate 79 '~' ++ ['\n']
    let notes := (fault.spans.filter fun span => (mark? pattern span).isNone).flatMap (lineNote pattern)
    "regex parse error:\n".toList ++ rule ++ shown ++ rule ++ notes ++ reason
  else "regex parse error:\n".toList ++ shown ++ reason

end Fault

end TextMigration.Pattern
