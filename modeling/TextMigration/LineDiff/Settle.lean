import TextMigration.LineDiff.Script

/-!
Where a script may be read in more than one way, edits move up and then down as far as they can go:
first every dropped stretch, then every added one. Dropped and added stretches pass each other, stretches
of one kind join, and an added stretch passes kept lines that it begins or ends with itself. Lists are
the same before and after.
-/

namespace TextMigration.LineDiff

/-- One edit, those above it from the nearest on, and those below it. -/
structure Focus where
  above : List Edit
  edit : Edit
  below : List Edit
deriving Repr

def keepSome (old new length : Nat) (edits : List Edit) : List Edit :=
  if length = 0 then edits else .keep old new length :: edits

namespace Focus

def up? (old new : Array Text) (focus : Focus) : Option Focus :=
  match focus.edit, focus.above with
  | .add o n length, .keep o' n' length' :: above =>
    let shared := sharedEnd (slice old o' length') (slice new n length)
    if shared = 0 then (if length' = 0 then some { focus with above } else none)
    else
      let below := match focus.below with
        | .keep o'' n'' length'' :: below =>
          .keep (o'' - shared) (n'' - shared) (length'' + shared) :: below
        | below => .keep (o' + length' - shared) (n + length - shared) shared :: below
      some ⟨keepSome o' n' (length' - shared) above, .add (o - shared) (n - shared) length, below⟩
  | .drop _ _ _, .keep _ _ length' :: above => if length' = 0 then some { focus with above } else none
  | .add _ _ length, .add o' n' length' :: above =>
    some ⟨above, .add o' n' (length' + length), focus.below⟩
  | .drop _ length _, .drop o' length' n' :: above =>
    some ⟨above, .drop o' (length' + length) n', focus.below⟩
  | .add _ _ _, passed :: above | .drop _ _ _, passed :: above =>
    some ⟨above, focus.edit, passed :: focus.below⟩
  | _, _ => none

def down? (old new : Array Text) (focus : Focus) : Option Focus :=
  match focus.edit, focus.below with
  | .add o n length, .keep o' n' length' :: below =>
    let shared := sharedStart (slice old o' length') (slice new n length)
    if shared = 0 then (if length' = 0 then some { focus with below } else none)
    else
      let above := match focus.above with
        | .keep o'' n'' length'' :: above => .keep o'' n'' (length'' + shared) :: above
        | above => .keep o' n shared :: above
      some ⟨above, .add (o + shared) (n + shared) length,
        keepSome (o' + shared) (n' + shared) (length' - shared) below⟩
  | .drop _ _ _, .keep _ _ length' :: below => if length' = 0 then some { focus with below } else none
  | .add o n length, .add _ _ length' :: below => some ⟨focus.above, .add o n (length + length'), below⟩
  | .drop o length n, .drop _ length' _ :: below =>
    some ⟨focus.above, .drop o (length + length') n, below⟩
  | .add _ _ _, passed :: below | .drop _ _ _, passed :: below =>
    some ⟨passed :: focus.above, focus.edit, below⟩
  | _, _ => none

def moveAll (move? : Focus → Option Focus) : Nat → Focus → Focus
  | 0, focus => focus
  | fuel + 1, focus =>
    match move? focus with
    | some moved => moveAll move? fuel moved
    | none => focus

end Focus

def settleFrom (old new : Array Text) (isMoved : Edit → Bool) (moves : Nat) :
    Nat → List Edit → List Edit → List Edit
  | 0, above, below => above.reverse ++ below
  | _ + 1, above, [] => above.reverse
  | fuel + 1, above, edit :: below =>
    if isMoved edit then
      let focus := Focus.moveAll (Focus.up? old new) moves ⟨above, edit, below⟩
      let focus := Focus.moveAll (Focus.down? old new) moves focus
      settleFrom old new isMoved moves fuel (focus.edit :: focus.above) focus.below
    else settleFrom old new isMoved moves fuel (edit :: above) below

def Edit.isDrop : Edit → Bool
  | drop _ _ _ => true
  | _ => false

def Edit.isAdd : Edit → Bool
  | add _ _ _ => true
  | _ => false

/-- The script with every edit where it comes to rest. A move takes an edit past a line or another edit,
so their number bounds the moves of one. -/
def settle (old new : Array Text) (edits : List Edit) : List Edit :=
  let moves := edits.length + old.size + new.size + 1
  let steps := moves * moves
  let dropped := settleFrom old new Edit.isDrop moves steps [] edits
  settleFrom old new Edit.isAdd moves steps [] dropped

end TextMigration.LineDiff
