import TextMigration.Pattern.Parser

/-!
How deep a pattern is nested. A bracket, a set of several items, an operator between sets, a repetition, a
group, a sequence and a choice are each one level; what stands for itself is none. Patterns that go too
deep are refused at the first place that does.
-/

namespace TextMigration.Pattern

def deeper (room : Nat) (span : Span) (inside : Nat → Option Span) : Option Span :=
  match room with
  | 0 => some span
  | room + 1 => inside room

mutual

def ClassSet.tooDeep? (room : Nat) : ClassSet → Option Span
  | .bracketed _ span inner => deeper room span fun room => inner.tooDeep? room
  | .union span items => deeper room span fun room => ClassSet.anyTooDeep? room items
  | .binary _ span left right =>
    deeper room span fun room => (left.tooDeep? room).orElse fun _ => right.tooDeep? room
  | _ => none

def ClassSet.anyTooDeep? (room : Nat) : List ClassSet → Option Span
  | [] => none
  | item :: rest => (item.tooDeep? room).orElse fun _ => ClassSet.anyTooDeep? room rest

end

mutual

def Tree.tooDeep? (room : Nat) : Tree → Option Span
  | .bracketed _ span inner => deeper room span fun room => inner.tooDeep? room
  | .repetition span _ _ inner => deeper room span fun room => inner.tooDeep? room
  | .capture span _ inner => deeper room span fun room => inner.tooDeep? room
  | .group span _ inner => deeper room span fun room => inner.tooDeep? room
  | .sequence span items => deeper room span fun room => Tree.anyTooDeep? room items
  | .alternatives span branches => deeper room span fun room => Tree.anyTooDeep? room branches
  | _ => none

def Tree.anyTooDeep? (room : Nat) : List Tree → Option Span
  | [] => none
  | tree :: rest => (tree.tooDeep? room).orElse fun _ => Tree.anyTooDeep? room rest

end

def Parsed.checkNesting (parsed : Parsed) : Except Fault Parsed :=
  match parsed.tree.tooDeep? nestLimit with
  | none => .ok parsed
  | some span => Cursor.fail .nestedTooDeep span

end TextMigration.Pattern
