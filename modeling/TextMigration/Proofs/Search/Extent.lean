import TextMigration.Pattern
import TextMigration.Proofs.Search.Places

/-!
How far a match reaches. No match ends behind the text, and the first match that takes something cuts the
text into the part before it, the part that it takes, and the rest (`first?_pieces`).
-/

namespace TextMigration.Pattern

variable {program : Array Instr}

/-- A match ends inside the text, if the best match so far does. -/
theorem follow_stop {seeking : Bool} {index : Nat} {threads : List Thread} {best : Option Outcome}
    {text : Text} {found : Outcome}
    (result : follow program seeking index threads best text = some found)
    (within : ∀ earlier, best = some earlier → earlier.stop ≤ index + text.length) :
    found.stop ≤ index + text.length := by
  induction text generalizing seeking index threads best with
  | nil =>
    rw [follow_nil] at result
    split at result
    · rw [← Option.some.inj result]
      exact Nat.le_refl _
    · exact within found result
  | cons c rest ih =>
    have step {best : Option Outcome} {threads : List Thread}
        (result : goOn program seeking index c rest best threads = some found)
        (within : ∀ earlier, best = some earlier → earlier.stop ≤ index + 1 + rest.length) :
        found.stop ≤ index + 1 + rest.length := by
      cases threads with
      | nil => exact within found result
      | cons thread threads => exact ih result within
    have length : index + (c :: rest).length = index + 1 + rest.length := by
      rw [List.length_cons]
      omega
    rw [length] at within ⊢
    rw [follow_cons] at result
    split at result
    · refine step result ?_
      intro earlier same
      rw [← Option.some.inj same]
      exact Nat.le_trans (Nat.le_succ index) (Nat.le_add_right _ _)
    · exact step result within

theorem searchOn_within {skip index : Nat} {before : Option Char} {text : Text} {found : Outcome}
    (result : searchOn program skip index before text = some found) :
    found.start < found.stop ∧ found.stop ≤ index + text.length := by
  induction text generalizing skip index before with
  | nil =>
    rw [searchOn] at result
    simp at result
  | cons c rest ih =>
    have further {skip : Nat}
        (result : searchOn program skip (index + 1) (some c) rest = some found) :
        found.start < found.stop ∧ found.stop ≤ index + (c :: rest).length := by
      have inner := ih result
      rw [List.length_cons]
      omega
    cases skip with
    | succ skip =>
      rw [searchOn] at result
      exact further result
    | zero =>
      rw [searchOn] at result
      split at result
      · simp at result
      · next here search =>
        split at result
        · next takes =>
          rw [← Option.some.inj result]
          exact ⟨takes, follow_stop search (by simp)⟩
        · exact further result

theorem first?_pieces {pattern : Pattern} {before : Option Char} {text gap rest : Text} {found : Match}
    (result : pattern.first? before text = some (gap, found, rest)) :
    text = gap ++ found.text ++ rest ∧ found.text ≠ [] := by
  simp only [first?, firstMatch, Option.map_eq_some_iff, Prod.mk.injEq, Prod.exists] at result
  obtain ⟨_, outcome, _, ⟨other, search, rfl, rfl, rfl⟩, rfl, rfl, rfl⟩ := result
  obtain ⟨takes, within⟩ := searchOn_within search
  constructor
  · have behind : text.drop other.stop = (text.drop other.start).drop (other.stop - other.start) := by
      rw [List.drop_drop, Nat.add_sub_cancel' (Nat.le_of_lt takes)]
    rw [behind, List.append_assoc, List.take_append_drop, List.take_append_drop]
  · intro empty
    have none := congrArg List.length empty
    simp only [List.length_take, List.length_drop, List.length_nil] at none
    omega

end TextMigration.Pattern
