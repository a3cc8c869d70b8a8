/-!
Sets of characters given as ascending ranges of code points that do not touch. Membership walks the
ranges and stops at the first one that begins above the character, which is right because the ranges
ascend. The operations keep the form, so that a set can also be measured by its ranges. Surrogates are no
characters: they may lie inside a range but never end one.
-/

namespace TextMigration.Unicode

abbrev Ranges := List (Nat × Nat)

namespace Ranges

/-- Pairs up a list of bounds: first and last code point of each range in turn. -/
def ofBounds : List Nat → Ranges
  | first :: last :: rest => (first, last) :: ofBounds rest
  | _ => []

def has (point : Nat) : Ranges → Bool
  | [] => false
  | (first, last) :: rest => if point < first then false else if point ≤ last then true else has point rest

def lastPoint : Nat := 0x10FFFF

def after (point : Nat) : Nat := if point = 0xD7FF then 0xE000 else point + 1

def before (point : Nat) : Nat := if point = 0xE000 then 0xD7FF else point - 1

/-- Joins ranges that touch or overlap to the range in front of them. They are in the order of their first
code points. -/
def joinTo (range : Nat × Nat) : Ranges → Ranges
  | [] => [range]
  | next :: rest =>
    if next.1 ≤ range.2 + 1 then joinTo (range.1, max range.2 next.2) rest else range :: joinTo next rest

def join : Ranges → Ranges
  | [] => []
  | range :: rest => joinTo range rest

def union (left right : Ranges) : Ranges := join (left.merge right fun a b => a.1 ≤ b.1)

def unionAll (sets : List Ranges) : Ranges := sets.foldr union []

def ofPoints (points : List Nat) : Ranges := join (points.mergeSort.map fun point => (point, point))

def intersection : Ranges → Ranges → Ranges
  | [], _ => []
  | _, [] => []
  | a :: left, b :: right =>
    let rest := if a.2 < b.2 then intersection left (b :: right) else intersection (a :: left) right
    if max a.1 b.1 ≤ min a.2 b.2 then (max a.1 b.1, min a.2 b.2) :: rest else rest
termination_by left right => left.length + right.length

def difference : Ranges → Ranges → Ranges
  | [], _ => []
  | left, [] => left
  | a :: left, b :: right =>
    if b.2 < a.1 then difference (a :: left) right
    else if a.2 < b.1 then a :: difference left (b :: right)
    else
      let rest :=
        if b.2 < a.2 then difference ((after b.2, a.2) :: left) right else difference left (b :: right)
      if a.1 < b.1 then (a.1, before b.1) :: rest else rest
termination_by left right => left.length + right.length

def symmetricDifference (left right : Ranges) : Ranges :=
  difference (union left right) (intersection left right)

/-- What lies between each range and the next. Between two ranges that meet across the surrogates there is
nothing; there the two ends stand in its place. -/
def gaps : Ranges → Ranges
  | a :: b :: rest =>
    (min (after a.2) (before b.1), max (after a.2) (before b.1)) :: gaps (b :: rest)
  | _ => []

def complement (set : Ranges) : Ranges :=
  match set.head?, set.getLast? with
  | some (first, _), some (_, last) =>
    (if 0 < first then [(0, before first)] else []) ++ gaps set ++
      (if last < lastPoint then [(after last, lastPoint)] else [])
  | _, _ => [(0, lastPoint)]

def isAscii (set : Ranges) : Bool := (set.getLast?.map fun range => decide (range.2 < 128)).getD true

end Ranges

abbrev NameTable := List (List String × Ranges)

def NameTable.find? (table : NameTable) (name : String) : Option Ranges :=
  (List.find? (fun entry : List String × Ranges => entry.1.contains name) table).map Prod.snd

end TextMigration.Unicode
