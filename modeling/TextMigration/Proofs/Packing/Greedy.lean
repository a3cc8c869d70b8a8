import Mathlib.Data.List.Perm.Subperm
import Mathlib.Order.Bounds.Defs
import TextMigration.Proofs.Rewriting.Splice

/-!
Pieces of a text as ranges, and how many can be had that have nothing in common. Ranges are taken greedily when
each one is, of all pieces that are still ahead, the first to begin and the first to end. Every piece then has
the end of a range that was taken inside it (`Greedy.ends_inside`), pieces with nothing in common have different
ones, and so no choice of pieces is larger (`Greedy.isGreatest`).
-/

namespace TextMigration

def Apart (one other : Nat × Nat) : Prop := one.2 ≤ other.1 ∨ other.2 ≤ one.1

/-- How many pieces there can be of which no two have anything in common. -/
def packings (IsPiece : Nat × Nat → Prop) : Set Nat :=
  {count | ∃ pieces : List (Nat × Nat),
    pieces.length = count ∧ pieces.Pairwise Apart ∧ ∀ piece ∈ pieces, IsPiece piece}

def gapsFrom : Nat → List (Nat × Nat) → List (Nat × Nat)
  | _, [] => []
  | low, (start, stop) :: rest => (low, start) :: gapsFrom stop rest

def lastEnd : Nat → List (Nat × Nat) → Nat
  | low, [] => low
  | _, (_, stop) :: rest => lastEnd stop rest

variable {IsPiece : Nat × Nat → Prop} {cursor low high : Nat} {ranges : List (Nat × Nat)}

namespace Ascending

theorem low_le (ascending : Ascending low high ranges) : ∀ range ∈ ranges, low ≤ range.1 := by
  induction ranges generalizing low with
  | nil =>
    intro range member
    simp at member
  | cons first ranges ih =>
    obtain ⟨after, forward, others⟩ := ascending
    intro range member
    rcases List.mem_cons.mp member with same | later
    · rw [same]
      exact after
    · have behind := ih others range later
      omega

theorem pairwise_apart (ascending : Ascending low high ranges) : ranges.Pairwise Apart := by
  induction ranges generalizing low with
  | nil => exact List.Pairwise.nil
  | cons first ranges ih =>
    obtain ⟨_, _, others⟩ := ascending
    exact List.Pairwise.cons (fun range member => Or.inl (others.low_le range member)) (ih others)

end Ascending

-- A gap ends where a range begins.
theorem exists_range_of_gap : ∀ gap ∈ gapsFrom low ranges, ∃ range ∈ ranges, range.1 = gap.2 := by
  induction ranges generalizing low with
  | nil =>
    intro gap member
    simp [gapsFrom] at member
  | cons first ranges ih =>
    intro gap member
    rcases List.mem_cons.mp member with same | later
    · exact ⟨first, List.mem_cons_self, by rw [same]⟩
    · obtain ⟨range, inside, begins⟩ := ih gap later
      exact ⟨range, List.mem_cons_of_mem first inside, begins⟩

/-- The ranges that are taken from the cursor on: the next one is a piece, and no piece ahead of the cursor
begins or ends before it. Nothing more is taken when there is no piece ahead. -/
inductive Greedy (IsPiece : Nat × Nat → Prop) : Nat → List (Nat × Nat) → Prop where
  | done {cursor : Nat} (absent : ∀ piece, IsPiece piece → ¬ cursor ≤ piece.1) : Greedy IsPiece cursor []
  | next {cursor : Nat} {range : Nat × Nat} {ranges : List (Nat × Nat)} (own : IsPiece range)
    (ahead : cursor ≤ range.1)
    (first : ∀ piece, IsPiece piece → cursor ≤ piece.1 → range.1 ≤ piece.1 ∧ range.2 ≤ piece.2)
    (others : Greedy IsPiece range.2 ranges) : Greedy IsPiece cursor (range :: ranges)

namespace Greedy

theorem own (greedy : Greedy IsPiece cursor ranges) : ∀ range ∈ ranges, IsPiece range := by
  induction greedy with
  | done => simp
  | next own _ _ _ ih => exact List.forall_mem_cons.mpr ⟨own, ih⟩

theorem first_end (greedy : Greedy IsPiece cursor ranges) :
    ∀ range ∈ ranges, ∀ piece, IsPiece piece → range.1 ≤ piece.1 → range.2 ≤ piece.2 := by
  induction greedy with
  | done => simp
  | next _ ahead first _ ih =>
    refine List.forall_mem_cons.mpr ⟨?_, ih⟩
    intro piece fits behind
    exact (first piece fits (Nat.le_trans ahead behind)).2

theorem clear_gaps (greedy : Greedy IsPiece cursor ranges) :
    ∀ gap ∈ gapsFrom cursor ranges, ∀ piece, IsPiece piece → gap.1 ≤ piece.1 → gap.2 ≤ piece.1 := by
  induction greedy with
  | done => simp [gapsFrom]
  | next _ _ first _ ih =>
    refine List.forall_mem_cons.mpr ⟨?_, ih⟩
    intro piece fits behind
    exact (first piece fits behind).1

theorem clear_behind (greedy : Greedy IsPiece cursor ranges) :
    ∀ piece, IsPiece piece → ¬ lastEnd cursor ranges ≤ piece.1 := by
  induction greedy with
  | done absent => exact absent
  | next _ _ _ _ ih => exact ih

/-- A piece that is still ahead has the end of a range inside it: the first one that ends behind its
beginning. -/
theorem ends_inside (greedy : Greedy IsPiece cursor ranges) {piece : Nat × Nat} (fits : IsPiece piece)
    (ahead : cursor ≤ piece.1) : ∃ range ∈ ranges, piece.1 < range.2 ∧ range.2 ≤ piece.2 := by
  induction greedy with
  | done absent => exact absurd ahead (absent piece fits)
  | @next cursor range ranges _ _ first _ ih =>
    by_cases passed : range.2 ≤ piece.1
    · obtain ⟨other, member, inside⟩ := ih passed
      exact ⟨other, List.mem_cons_of_mem range member, inside⟩
    · exact ⟨range, List.mem_cons_self, Nat.lt_of_not_le passed, (first piece fits ahead).2⟩

/-- The ranges are the most pieces that can be had at once. -/
theorem isGreatest (greedy : Greedy IsPiece 0 ranges) (ascending : Ascending 0 high ranges) :
    IsGreatest (packings IsPiece) ranges.length := by
  refine ⟨⟨ranges, rfl, ascending.pairwise_apart, greedy.own⟩, ?_⟩
  rintro count ⟨pieces, rfl, apart, all⟩
  have ended : ∀ piece ∈ pieces, ∃ range ∈ ranges, piece.1 < range.2 ∧ range.2 ≤ piece.2 :=
    fun piece member => greedy.ends_inside (all piece member) (Nat.zero_le _)
  choose! ending inside using ended
  -- Two pieces with the same end inside would have it in common.
  have distinct : (pieces.map ending).Nodup := by
    refine List.pairwise_map.mpr (apart.imp_of_mem ?_)
    intro one other here there clear same
    have first := inside one here
    have second := inside other there
    rw [same] at first
    rcases clear with before | after <;> omega
  have among : pieces.map ending ⊆ ranges := by
    intro range member
    obtain ⟨piece, here, made⟩ := List.mem_map.mp member
    rw [← made]
    exact (inside piece here).1
  calc pieces.length = (pieces.map ending).length := List.length_map ending |>.symm
    _ ≤ ranges.length := (List.subperm_of_subset distinct among).length_le

end Greedy

end TextMigration
