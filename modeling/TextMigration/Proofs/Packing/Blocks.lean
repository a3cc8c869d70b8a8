import TextMigration.Proofs.Packing.Literal

/-!
Blocks between a start and a stop. Looking for them ends by itself and takes from each start on the block that
is closed first. Starts that no stop follows are all behind the last block, and no choice of blocks with
nothing in common is larger (`delimited_ranges_greatest`); anchors may be equal, overlap and repeat.
-/

namespace TextMigration

/-- The range begins with a start and ends with a stop that begins no sooner than the start ends. -/
def IsBlock (start stop text : Text) (range : Nat × Nat) : Prop :=
  ∃ closing, text.OccursAt start range.1 ∧ range.1 + start.byteLength ≤ closing ∧
    text.OccursAt stop closing ∧ range.2 = closing + stop.byteLength

namespace Matcher

variable {start stop text : Text} {cursor : Nat} {range : Nat × Nat} {ranges : List (Nat × Nat)}

theorem isPiece_delimited_iff : (delimited start stop).IsPiece text range ↔ IsBlock start stop text range := by
  constructor
  · rintro ⟨span, found, body, rfl⟩
    obtain ⟨lead, rest, same, begins, ends⟩ := Text.slice?_eq_some_iff.mp found
    refine ⟨(lead ++ start ++ body).byteLength, ?_, ?_, ?_, ?_⟩
    · exact Text.occursAt_iff.mpr ⟨lead, body ++ stop ++ rest, by rw [same]; simp, begins⟩
    · simp [begins]
    · exact Text.occursAt_iff.mpr ⟨lead ++ start ++ body, rest, by rw [same]; simp, rfl⟩
    · simp only [Text.byteLength_append] at ends ⊢
      omega
  · rintro ⟨closing, opened, behind, closed, ends⟩
    obtain ⟨lead, inner, same, begins⟩ := Text.occursAt_iff.mp opened
    have whole : range.1 + start.byteLength = (lead ++ start).byteLength := by simp [begins]
    rw [whole] at behind
    rw [same] at closed
    obtain ⟨body, rest, inners, place, _⟩ := Text.exists_split_behind closed behind
    refine ⟨start ++ body ++ stop, ?_, body, rfl⟩
    refine Text.slice?_eq_some_iff.mpr ⟨lead, rest, ?_, begins, ?_⟩
    · rw [same, inners]
      simp
    · simp only [Text.byteLength_append] at place ⊢
      omega

theorem exists_isBlock_iff : (∃ range, IsBlock start stop text range) ↔ ∃ opening closing,
    text.OccursAt start opening ∧ opening + start.byteLength ≤ closing ∧ text.OccursAt stop closing := by
  constructor
  · rintro ⟨range, closing, opened, behind, closed, _⟩
    exact ⟨range.1, closing, opened, behind, closed⟩
  · rintro ⟨opening, closing, opened, behind, closed⟩
    exact ⟨(opening, closing + stop.byteLength), closing, opened, behind, closed, rfl⟩

theorem closes_first (greedy : Greedy (IsBlock start stop text) cursor ranges) (member : range ∈ ranges) :
    text.OccursAt start range.1 ∧ ∃ closing,
      IsLeast {place | range.1 + start.byteLength ≤ place ∧ text.OccursAt stop place} closing ∧
        range.2 = closing + stop.byteLength := by
  obtain ⟨closing, opened, behind, closed, ends⟩ := greedy.own range member
  refine ⟨opened, closing, ⟨⟨behind, closed⟩, ?_⟩, ends⟩
  -- An earlier stop would close a block that begins with this range and ends before it.
  rintro other ⟨later, here⟩
  have sooner := greedy.first_end range member (range.1, other + stop.byteLength)
    ⟨other, opened, later, here, rfl⟩ (Nat.le_refl _)
  simp only at sooner
  omega

theorem no_start_between (greedy : Greedy (IsBlock start stop text) cursor ranges) {gap : Nat × Nat}
    (member : gap ∈ gapsFrom cursor ranges) {place : Nat} (low : gap.1 ≤ place) (high : place < gap.2) :
    ¬ text.OccursAt start place := by
  intro opened
  -- The stop of the range behind the gap would close a block that begins in the gap.
  obtain ⟨range, inside, begins⟩ := exists_range_of_gap gap member
  obtain ⟨closing, _, behind, closed, ends⟩ := greedy.own range inside
  have late := greedy.clear_gaps gap member (place, range.2) ⟨closing, opened, by omega, closed, ends⟩ low
  exact absurd high (Nat.not_lt.mpr late)

theorem cutFrom_eq_cut {matcher : Matcher} {fuel : Nat} (enough : text.length ≤ fuel) :
    matcher.cutFrom fuel none text = matcher.cut text :=
  (cutFrom_cutting enough).unique (cut_cutting matcher text)

/-- For anchors that are not empty: the search ends by itself, after no more rounds than the text has
characters. Its ranges are in order and have nothing in common; each begins with a start and ends with the
first stop from the end of that start on; no start begins between them, and none that begins behind the last
has a stop behind it. So there is a block exactly when some start has a stop behind it, and the ranges are the
most blocks there can be with nothing in common. -/
theorem delimited_ranges_greatest (opens : start ≠ []) (closes : stop ≠ []) (text : Text) :
    let matcher := delimited start stop
    let ranges := matcher.ranges text
    (∀ fuel, text.length ≤ fuel → blocksFrom start stop text fuel 0 = some ranges) ∧
      Ascending 0 text.byteLength ranges ∧
      (∀ range ∈ ranges, text.OccursAt start range.1 ∧ ∃ closing,
        IsLeast {place | range.1 + start.byteLength ≤ place ∧ text.OccursAt stop place} closing ∧
          range.2 = closing + stop.byteLength) ∧
      (∀ gap ∈ gapsFrom 0 ranges, ∀ place, gap.1 ≤ place → place < gap.2 → ¬ text.OccursAt start place) ∧
      (∀ opening, lastEnd 0 ranges ≤ opening → text.OccursAt start opening →
        ∀ closing, opening + start.byteLength ≤ closing → ¬ text.OccursAt stop closing) ∧
      (matcher.isMatch text = true ↔ ∃ opening closing, text.OccursAt start opening ∧
        opening + start.byteLength ≤ closing ∧ text.OccursAt stop closing) ∧
      IsGreatest (packings (IsBlock start stop text)) ranges.length := by
  intro matcher ranges
  have nonblank : matcher.isBlank = false := by simp [matcher, isBlank, opens, closes]
  have ascending : Ascending 0 text.byteLength ranges := ranges_ascending matcher text
  have greedy : Greedy (IsBlock start stop text) 0 ranges := by
    have pieces : matcher.IsPiece text = IsBlock start stop text :=
      funext fun range => propext isPiece_delimited_iff
    rw [← pieces]
    exact ranges_greedy rfl nonblank text
  refine ⟨?_, ascending, ?_, ?_, ?_, ?_, greedy.isGreatest ascending⟩
  · intro fuel enough
    have front : text = [] ++ text := rfl
    have found := blocksFrom_ranges nonblank fuel none front
    rw [cutFrom_eq_cut enough] at found
    exact found
  · intro range member
    exact closes_first greedy member
  · intro gap member place low high
    exact no_start_between greedy member low high
  · intro opening last opened closing behind closed
    exact greedy.clear_behind (opening, closing + stop.byteLength) ⟨closing, opened, behind, closed, rfl⟩ last
  · rw [isMatch_iff_exists_piece rfl nonblank, ← exists_isBlock_iff]
    exact exists_congr fun range => isPiece_delimited_iff

/-- With equal anchors a stop does not open the next block, and the start that is left over has no stop. -/
theorem delimited_ranges_of_equal :
    let text := ['|', 'a', '|', 'b', '|', 'c']
    let ranges := (delimited ['|'] ['|']).ranges text
    ['|'] ≠ [] ∧ ranges = [(0, 3)] ∧ IsBlock ['|'] ['|'] text (2, 5) ∧ Text.OccursAt text ['|'] 4 ∧
      (∀ closing, 5 ≤ closing → ¬ Text.OccursAt text ['|'] closing) ∧
      IsGreatest (packings (IsBlock ['|'] ['|'] text)) 1 := by
  intro text ranges
  have nonempty : ['|'] ≠ [] := by decide
  have one : ranges = [(0, 3)] := by decide
  obtain ⟨_, _, _, _, last, _, greatest⟩ := delimited_ranges_greatest nonempty nonempty text
  rw [show (delimited ['|'] ['|']).ranges text = [(0, 3)] from one] at last greatest
  have fourth : Text.OccursAt text ['|'] 4 := by decide
  exact ⟨nonempty, one, ⟨4, by decide⟩, fourth, last 4 (by decide) fourth, greatest⟩

end Matcher

end TextMigration
