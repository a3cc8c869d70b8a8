import TextMigration.Proofs.Packing.Literal

/-!
The occurrences of a needle. Those that are taken from the left are as many as are counted, and as many as can
be had with nothing in common, also when the needle overlaps itself (`exact_ranges_greatest`).
-/

namespace TextMigration.Matcher

variable {needle text : Text} {place : Nat} {range : Nat × Nat}

theorem isPiece_exact_iff : (exact needle).IsPiece text range ↔ text.slice? range.1 range.2 = some needle := by
  constructor
  · rintro ⟨span, found, rfl⟩
    exact found
  · intro found
    exact ⟨needle, found, rfl⟩

-- An occurrence is a piece by where it begins.
theorem isPiece_of_occursAt (here : text.OccursAt needle place) :
    (exact needle).IsPiece text (place, place + needle.byteLength) :=
  isPiece_exact_iff.mpr here

/-- The spans of a needle that is not empty are occurrences of it, in order and with nothing in common; no
occurrence begins before the first, between two of them or behind the last. They are as many as are counted,
and that is the most occurrences there can be with nothing in common. -/
theorem exact_ranges_greatest (nonempty : needle ≠ []) (text : Text) :
    let ranges := (exact needle).ranges text
    Ascending 0 text.byteLength ranges ∧
      (∀ range ∈ ranges, text.slice? range.1 range.2 = some needle) ∧
      (∀ gap ∈ gapsFrom 0 ranges ++ [(lastEnd 0 ranges, text.byteLength)],
        ∀ place, gap.1 ≤ place → place < gap.2 → ¬ text.OccursAt needle place) ∧
      ranges.length = text.count needle ∧
      IsGreatest (packings fun range => text.slice? range.1 range.2 = some needle) ranges.length := by
  intro ranges
  have nonblank : (exact needle).isBlank = false := by simpa [isBlank] using nonempty
  have greedy : Greedy ((exact needle).IsPiece text) 0 ranges := ranges_greedy rfl nonblank text
  have ascending : Ascending 0 text.byteLength ranges := ranges_ascending (exact needle) text
  refine ⟨ascending, ?_, ?_, ?_, ?_⟩
  · intro range member
    exact isPiece_exact_iff.mp (greedy.own range member)
  · intro gap member place low high here
    have piece := isPiece_of_occursAt here
    rcases List.mem_append.mp member with before | behind
    · exact absurd high (Nat.not_lt.mpr (greedy.clear_gaps gap before _ piece low))
    · rw [List.mem_singleton.mp behind] at low
      exact greedy.clear_behind _ piece low
  · rw [count_eq_length_hits]
    exact length_ranges (exact needle) text
  · have pieces : (exact needle).IsPiece text = fun range => text.slice? range.1 range.2 = some needle :=
      funext fun range => propext isPiece_exact_iff
    rw [← pieces]
    exact greedy.isGreatest ascending

/-- Of the three occurrences of `aba` two have nothing in common, and the one between is passed over. -/
theorem exact_ranges_of_bordered :
    let text := ['a', 'b', 'a', 'b', 'a', 'b', 'a']
    let ranges := (exact ['a', 'b', 'a']).ranges text
    ['a', 'b', 'a'] ≠ [] ∧ Text.OccursAt text ['a', 'b', 'a'] 2 ∧ ranges = [(0, 3), (4, 7)] ∧
      Text.count text ['a', 'b', 'a'] = 2 ∧
      IsGreatest (packings fun range => Text.slice? text range.1 range.2 = some ['a', 'b', 'a']) 2 := by
  intro text ranges
  have nonempty : ['a', 'b', 'a'] ≠ [] := by decide
  have two : ranges = [(0, 3), (4, 7)] := by decide
  obtain ⟨_, _, _, counted, greatest⟩ := exact_ranges_greatest nonempty text
  rw [show ((exact ['a', 'b', 'a']).ranges text).length = 2 from congrArg List.length two] at counted greatest
  exact ⟨nonempty, by decide, two, counted.symm, greatest⟩

end TextMigration.Matcher
