/-!
Sets of instruction numbers as binary trees: the number 0 is kept at the root, and every other number
goes left or right by its parity, so that a number is found in about as many steps as it has binary
digits. A number is in the set after it is added, and no other is.
-/

namespace TextMigration.Pattern

inductive Visited where
  | none
  | node (here : Bool) (left right : Visited)
deriving DecidableEq, Repr

namespace Visited

def has : Visited → Nat → Bool
  | none, _ => false
  | node here _ _, 0 => here
  | node _ left right, number + 1 =>
    if number % 2 = 0 then left.has (number / 2) else right.has (number / 2)

def parts : Visited → Bool × Visited × Visited
  | none => (false, none, none)
  | node here left right => (here, left, right)

def addWithin : Nat → Nat → Visited → Visited
  | 0, _, set => set
  | _ + 1, 0, set => node true set.parts.2.1 set.parts.2.2
  | fuel + 1, number + 1, set =>
    if number % 2 = 0 then node set.parts.1 (addWithin fuel (number / 2) set.parts.2.1) set.parts.2.2
    else node set.parts.1 set.parts.2.1 (addWithin fuel (number / 2) set.parts.2.2)

def add (set : Visited) (number : Nat) : Visited := addWithin (number + 1) number set

theorem has_parts (set : Visited) (number : Nat) :
    (node set.parts.1 set.parts.2.1 set.parts.2.2).has number = set.has number := by
  cases set with
  | none => cases number <;> simp [has, parts]
  | node here left right => rfl

theorem has_addWithin (fuel number other : Nat) (set : Visited) (below : number < fuel) :
    (addWithin fuel number set).has other = (other == number || set.has other) := by
  induction fuel generalizing number other set with
  | zero => omega
  | succ fuel ih =>
    rw [← has_parts set other]
    cases number with
    | zero => cases other <;> simp [addWithin, has]
    | succ number =>
      have smaller : number / 2 < fuel := by omega
      cases other with
      | zero => simp only [addWithin]; split <;> simp [has]
      | succ other =>
        have same : (other + 1 == number + 1) = (other % 2 == number % 2 && other / 2 == number / 2) := by
          rw [Bool.eq_iff_iff]
          simp only [beq_iff_eq, Bool.and_eq_true]
          omega
        rw [same]
        by_cases even : number % 2 = 0 <;> by_cases here : other % 2 = 0
        · simp [addWithin, has, even, here, ih _ _ _ smaller]
        · simp [addWithin, has, even, here]
        · have odd : number % 2 = 1 := by omega
          simp [addWithin, has, here, odd]
        · have odd : number % 2 = 1 := by omega
          have there : other % 2 = 1 := by omega
          simp [addWithin, has, odd, there, ih _ _ _ smaller]

theorem has_add (set : Visited) (number other : Nat) :
    (set.add number).has other = (other == number || set.has other) :=
  has_addWithin (number + 1) number other set (Nat.lt_succ_self number)

end Visited

end TextMigration.Pattern
