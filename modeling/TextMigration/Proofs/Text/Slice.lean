import TextMigration.Text.Basic

/-!
Pieces of a text by their places, counted in bytes of UTF-8. Taking one can fail, and does so exactly when
the places are out of order, out of the text, or inside a character (`slice?_eq_some_iff`).
-/

namespace TextMigration.Text

def splitBytes? : Nat → Text → Option (Text × Text)
  | 0, text => some ([], text)
  | _ + 1, [] => none
  | size + 1, c :: text =>
    if c.utf8Size ≤ size + 1 then
      (splitBytes? (size + 1 - c.utf8Size) text).map fun (front, rest) => (c :: front, rest)
    else none

def slice? (text : Text) (start stop : Nat) : Option Text :=
  if start ≤ stop then
    (splitBytes? start text).bind fun (_, rest) => (splitBytes? (stop - start) rest).map Prod.fst
  else none

@[simp] theorem byteLength_nil : byteLength [] = 0 := rfl

@[simp] theorem byteLength_cons (c : Char) (text : Text) :
    byteLength (c :: text) = c.utf8Size + byteLength text := rfl

@[simp] theorem byteLength_append (front rest : Text) :
    byteLength (front ++ rest) = byteLength front + byteLength rest := by
  induction front with
  | nil => simp
  | cons c front ih => rw [List.cons_append, byteLength_cons, byteLength_cons, ih, Nat.add_assoc]

theorem byteLength_pos {text : Text} (nonempty : text ≠ []) : 0 < byteLength text := by
  cases text with
  | nil => exact absurd rfl nonempty
  | cons c text =>
    rw [byteLength_cons]
    exact Nat.lt_of_lt_of_le (Char.utf8Size_pos c) (Nat.le_add_right _ _)

theorem splitBytes?_append (front rest : Text) :
    splitBytes? (byteLength front) (front ++ rest) = some (front, rest) := by
  induction front with
  | nil => cases rest <;> rfl
  | cons c front ih =>
    have size : byteLength (c :: front) = (c.utf8Size - 1 + byteLength front) + 1 := by
      have positive := Char.utf8Size_pos c
      rw [byteLength_cons]
      omega
    have left : c.utf8Size - 1 + byteLength front + 1 - c.utf8Size = byteLength front := by
      have positive := Char.utf8Size_pos c
      omega
    rw [size, List.cons_append, splitBytes?, left, ih, if_pos (by omega)]
    rfl

theorem splitBytes?_pieces {size : Nat} {text front rest : Text}
    (split : splitBytes? size text = some (front, rest)) :
    text = front ++ rest ∧ byteLength front = size := by
  induction text generalizing size front with
  | nil =>
    cases size with
    | zero =>
      simp only [splitBytes?, Option.some.injEq, Prod.mk.injEq] at split
      obtain ⟨rfl, rfl⟩ := split
      exact ⟨rfl, rfl⟩
    | succ size => simp [splitBytes?] at split
  | cons c text ih =>
    cases size with
    | zero =>
      simp only [splitBytes?, Option.some.injEq, Prod.mk.injEq] at split
      obtain ⟨rfl, rfl⟩ := split
      exact ⟨rfl, rfl⟩
    | succ size =>
      rw [splitBytes?] at split
      split at split
      · next fits =>
        obtain ⟨⟨inner, tail⟩, hit, made⟩ := Option.map_eq_some_iff.mp split
        simp only [Prod.mk.injEq] at made
        obtain ⟨rfl, rfl⟩ := made
        obtain ⟨same, length⟩ := ih hit
        rw [same, byteLength_cons, length]
        exact ⟨rfl, by omega⟩
      · simp at split

/-- A slice is there exactly when both places are between characters of the text, in order. -/
theorem slice?_eq_some_iff {text piece : Text} {start stop : Nat} :
    slice? text start stop = some piece ↔
      ∃ lead rest, text = lead ++ piece ++ rest ∧ start = byteLength lead ∧
        stop = byteLength lead + byteLength piece := by
  constructor
  · intro found
    rw [slice?] at found
    split at found
    · next order =>
      obtain ⟨⟨lead, behind⟩, first, found⟩ := Option.bind_eq_some_iff.mp found
      obtain ⟨⟨front, rest⟩, second, rfl⟩ := Option.map_eq_some_iff.mp found
      obtain ⟨whole, start⟩ := splitBytes?_pieces first
      obtain ⟨inner, length⟩ := splitBytes?_pieces second
      exact ⟨lead, rest, by rw [whole, inner, List.append_assoc], start.symm, by rw [start, length]; omega⟩
    · simp at found
  · rintro ⟨lead, rest, rfl, rfl, rfl⟩
    rw [slice?, if_pos (Nat.le_add_right _ _), List.append_assoc, splitBytes?_append, Option.bind_some]
    show (splitBytes? _ (piece ++ rest)).map Prod.fst = some piece
    rw [Nat.add_sub_cancel_left, splitBytes?_append]
    rfl

end TextMigration.Text
