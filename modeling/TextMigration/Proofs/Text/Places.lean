import TextMigration.Proofs.Text.Slice

/-!
Where a text stands in another one, told by its place in bytes. Pieces that begin a text are in the order of
their lengths, so that a slice that begins at or behind a place lies wholly behind what stands before that
place (`exists_split_behind`).
-/

namespace TextMigration.Text

variable {text needle piece lead front rest : Text} {place start stop : Nat}

def OccursAt (text needle : Text) (place : Nat) : Prop :=
  text.slice? place (place + needle.byteLength) = some needle

instance (text needle : Text) (place : Nat) : Decidable (text.OccursAt needle place) :=
  inferInstanceAs (Decidable (_ = _))

theorem occursAt_iff : text.OccursAt needle place ↔
    ∃ lead rest, text = lead ++ needle ++ rest ∧ place = lead.byteLength := by
  rw [OccursAt, slice?_eq_some_iff]
  constructor
  · rintro ⟨lead, rest, same, here, _⟩
    exact ⟨lead, rest, same, here⟩
  · rintro ⟨lead, rest, same, here⟩
    exact ⟨lead, rest, same, here, by rw [here]⟩

theorem byteLength_le_of_prefix (begins : front <+: text) : front.byteLength ≤ text.byteLength := by
  obtain ⟨rest, rfl⟩ := begins
  rw [byteLength_append]
  exact Nat.le_add_right _ _

-- Of two pieces that begin a text the one with fewer bytes begins the other.
theorem prefix_of_byteLength_le (begins : lead <+: text) (also : front <+: text)
    (short : lead.byteLength ≤ front.byteLength) : lead <+: front := by
  rcases List.prefix_or_prefix_of_prefix begins also with first | second
  · exact first
  · obtain ⟨more, rfl⟩ := second
    rw [byteLength_append] at short
    cases more with
    | nil => simp
    | cons c more =>
      have positive := byteLength_pos (List.cons_ne_nil c more)
      omega

theorem exists_split_behind (found : (lead ++ text).slice? start stop = some piece)
    (behind : lead.byteLength ≤ start) :
    ∃ front rest, text = front ++ piece ++ rest ∧ start = (lead ++ front).byteLength ∧
      stop = (lead ++ front ++ piece).byteLength := by
  obtain ⟨whole, rest, same, begins, ends⟩ := slice?_eq_some_iff.mp found
  rw [begins] at behind
  have opens : whole <+: lead ++ text := ⟨piece ++ rest, by rw [same, List.append_assoc]⟩
  obtain ⟨front, rfl⟩ := prefix_of_byteLength_le (List.prefix_append lead text) opens behind
  rw [List.append_assoc, List.append_assoc] at same
  refine ⟨front, rest, ?_, begins, by rw [ends, ← byteLength_append]⟩
  rw [List.append_cancel_left same, List.append_assoc]

end TextMigration.Text
