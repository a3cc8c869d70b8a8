import Mathlib.Order.Bounds.Basic
import TextMigration.NearMiss

/-!
What the edit table counts. `Edit` changes one character of a text, and `Edits` is a number of such changes in a
row. `distance` counts from the front, character by character; no number of edits is smaller, and that many are
enough. The table reads both texts from the front, so its entries are distances of what is read so far, from the
back (`foldl_nextRow`); its last entry is the least number of edits (`editDistance_isLeast`).
-/

namespace TextMigration.NearMiss

inductive Edit : Text → Text → Prop where
  | insert (c : Char) (text : Text) : Edit text (c :: text)
  | delete (c : Char) (text : Text) : Edit (c :: text) text
  | substitute (c d : Char) (text : Text) : Edit (c :: text) (d :: text)
  | later (c : Char) {left right : Text} (edit : Edit left right) : Edit (c :: left) (c :: right)

inductive Edits : Nat → Text → Text → Prop where
  | done (text : Text) : Edits 0 text text
  | step {count : Nat} {left middle right : Text} (edit : Edit left middle) (rest : Edits count middle right) :
    Edits (count + 1) left right

def distance : Text → Text → Nat
  | [], right => right.length
  | c :: left, [] => (c :: left).length
  | c :: left, d :: right =>
    min (min (distance left (d :: right) + 1) (distance (c :: left) right + 1))
      (if c = d then distance left right else distance left right + 1)

variable {left middle right : Text} {count : Nat}

theorem Edit.behind (front : Text) (edit : Edit left right) : Edit (front ++ left) (front ++ right) := by
  induction front with
  | nil => exact edit
  | cons c front ih => exact .later c ih

theorem Edit.reverse (edit : Edit left right) : Edit left.reverse right.reverse := by
  have back {left right : Text} (edit : Edit left right) (back : Text) : Edit (left ++ back) (right ++ back) := by
    induction edit with
    | insert c text => exact .insert c _
    | delete c text => exact .delete c _
    | substitute c d text => exact .substitute c d _
    | later c _ ih => exact .later c ih
  induction edit with
  | insert c text => simpa using (Edit.insert c []).behind text.reverse
  | delete c text => simpa using (Edit.delete c []).behind text.reverse
  | substitute c d text => simpa using (Edit.substitute c d []).behind text.reverse
  | later c _ ih => simpa using back ih [c]

namespace Edits

theorem later (c : Char) (edits : Edits count left right) : Edits count (c :: left) (c :: right) := by
  induction edits with
  | done text => exact .done _
  | step edit _ ih => exact .step (edit.later c) ih

theorem reverse (edits : Edits count left right) : Edits count left.reverse right.reverse := by
  induction edits with
  | done text => exact .done _
  | step edit _ ih => exact .step edit.reverse ih

theorem insert (c : Char) (edits : Edits count left right) : Edits (count + 1) left (c :: right) :=
  .step (.insert c left) (edits.later c)

theorem delete (c : Char) (edits : Edits count left right) : Edits (count + 1) (c :: left) right :=
  .step (.delete c left) edits

theorem substitute (c d : Char) (edits : Edits count left right) : Edits (count + 1) (c :: left) (d :: right) :=
  .step (.substitute c d left) (edits.later d)

end Edits

@[simp] theorem distance_nil (left : Text) : distance left [] = left.length := by
  cases left <;> simp [distance]

theorem edits_distance (left right : Text) : Edits (distance left right) left right := by
  fun_induction distance left right with
  | case1 right =>
    induction right with
    | nil => exact .done _
    | cons c right ih => exact ih.insert c
  | case2 c left =>
    induction left generalizing c with
    | nil => exact (Edits.done []).delete c
    | cons d left ih => exact (ih d).delete c
  | case3 c left d right deleted inserted paired =>
    have first : Edits (if c = d then distance left right else distance left right + 1) (c :: left) (d :: right) := by
      split
      · next same => exact same ▸ paired.later c
      · exact paired.substitute c d
    exact min_rec' (Edits · _ _) (min_rec' (Edits · _ _) (deleted.delete c) (inserted.insert d)) first

theorem distance_le_insert (left right : Text) (d : Char) : distance left (d :: right) ≤ distance left right + 1 := by
  cases left with
  | nil => simp [distance]
  | cons c left =>
    rw [distance]
    omega

theorem distance_le_delete (left right : Text) (c : Char) : distance (c :: left) right ≤ distance left right + 1 := by
  cases right with
  | nil => simp
  | cons d right =>
    rw [distance]
    omega

theorem distance_le_pair (left right : Text) (c d : Char) :
    distance (c :: left) (d :: right) ≤ distance left right + 1 := by
  rw [distance]
  split <;> omega

theorem distance_le_later (left right : Text) (c : Char) : distance (c :: left) (c :: right) ≤ distance left right := by
  rw [distance, if_pos rfl]
  omega

theorem Edit.distance_le (edit : Edit left middle) (right : Text) :
    distance left right ≤ distance middle right + 1 := by
  -- On the edit for every other text, and then on that text: its first character may be one that is inserted.
  induction edit generalizing right with
  | insert c text =>
    induction right with
    | nil => simp only [distance_nil, List.length_cons]; omega
    | cons d right ih =>
      have := distance_le_insert text right d
      rw [distance]
      split <;> omega
  | delete c text => exact distance_le_delete text right c
  | substitute c d text =>
    induction right with
    | nil => simp
    | cons e right ih =>
      have := distance_le_delete text (e :: right) c
      have := distance_le_insert (c :: text) right e
      have := distance_le_pair text right c e
      rw [distance.eq_def (d :: text)]
      dsimp only
      split <;> omega
  | later c edit ih =>
    rename_i left middle
    induction right with
    | nil => simpa using ih []
    | cons e right inner =>
      have := ih (e :: right)
      have := ih right
      rw [distance, distance]
      split <;> omega

theorem distance_self (text : Text) : distance text text = 0 := by
  induction text with
  | nil => simp
  | cons c text ih =>
    have := distance_le_later text text c
    omega

theorem Edits.distance_le (edits : Edits count left right) : distance left right ≤ count := by
  induction edits with
  | done text => exact Nat.le_of_eq (distance_self text)
  | step edit _ ih => exact Nat.le_trans (edit.distance_le _) (Nat.add_le_add_right ih 1)

theorem distance_isLeast (left right : Text) : IsLeast {count | Edits count left right} (distance left right) :=
  ⟨edits_distance left right, fun _ edits => edits.distance_le⟩

/-- The row of the table for what is read of the one text, with the other text still to be read; both are read
backwards, the last character first. -/
def entries (left read : Text) : Text → List Nat
  | [] => []
  | d :: unread => distance left (d :: read) :: entries left (d :: read) unread

def row (left right : Text) : List Nat := distance left [] :: entries left [] right

theorem nextEntries_entries (c : Char) (left read unread : Text) :
    nextEntries c unread (distance left read) (entries left read unread) (distance (c :: left) read) =
      entries (c :: left) read unread := by
  induction unread generalizing read with
  | nil => simp [nextEntries, entries]
  | cons d unread ih =>
    have entry : distance (c :: left) (d :: read) = min (min (distance left (d :: read) + 1)
        (distance (c :: left) read + 1)) (if c = d then distance left read else distance left read + 1) := by
      rw [distance]
    simp only [entries, nextEntries, ← entry, ih]

theorem nextRow_row (c : Char) (left right : Text) : nextRow right c (row left right) = row (c :: left) right := by
  have first : distance left [] + 1 = distance (c :: left) [] := by simp
  rw [row, nextRow, first, nextEntries_entries]
  rfl

theorem entries_nil (read unread : Text) :
    entries [] read unread = List.range' (read.length + 1) unread.length := by
  induction unread generalizing read with
  | nil => rfl
  | cons d unread ih => simp [entries, ih, distance, List.range'_succ]

theorem range_eq_row (right : Text) : List.range (right.length + 1) = row [] right := by
  rw [row, entries_nil, List.range_eq_range', List.range'_succ, distance_nil]
  rfl

theorem foldl_nextRow (left read right : Text) :
    left.foldl (fun row c => nextRow right c row) (row read right) = row (left.reverse ++ read) right := by
  induction left generalizing read with
  | nil => rfl
  | cons c left ih => simp [nextRow_row, ih]

theorem getLastD_entries (left read unread : Text) :
    (entries left read unread).getLastD (distance left read) = distance left (unread.reverse ++ read) := by
  induction unread generalizing read with
  | nil => rfl
  | cons d unread ih =>
    rw [entries, List.getLastD_cons, ih, List.reverse_cons, List.append_assoc, List.singleton_append]

/-- The edit table gives the least number of edits. -/
theorem editDistance_isLeast (left right : Text) :
    IsLeast {count | Edits count left right} (editDistance left right) := by
  have back : {count | Edits count left right} = {count | Edits count left.reverse right.reverse} := by
    ext count
    exact ⟨Edits.reverse, fun edits => by simpa using edits.reverse⟩
  rw [editDistance, range_eq_row, foldl_nextRow, row, List.getLastD_cons, getLastD_entries, List.append_nil,
    List.append_nil, back]
  exact distance_isLeast _ _

end TextMigration.NearMiss
