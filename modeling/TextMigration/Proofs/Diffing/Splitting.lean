import TextMigration.LineDiff.Script

/-!
Where two lists of lines are split. A search goes on along a diagonal even where it has left one of the lists, so
that the point at which the searches meet is within both lists only because they have not met before: `split?_within`.
The invariant of a search is `Level`: on a diagonal where it is past the end of a list, it is at that end at least
on the next diagonal towards it.
-/

namespace TextMigration.LineDiff

def OnLevel (level diagonal : Int) : Prop :=
  -level ≤ diagonal ∧ diagonal ≤ level ∧ (diagonal - level) % 2 = 0

def stepFrom (places : Int → Nat) (edits : Nat) (diagonal : Int) : Nat :=
  if diagonal = -edits ∨ (diagonal ≠ edits ∧ places (diagonal - 1) < places (diagonal + 1))
    then places (diagonal + 1) else places (diagonal - 1) + 1

section Levels

variable {n m edits : Nat} {k : Int} {before after : Int → Nat}

/-- The places of a search after some edits, in lists of `n` and `m` lines. No place is above the new list. Where one
is past the end of a list, the place on the next diagonal towards that end is at it or past it as well. -/
structure Level (n m : Nat) (places : Int → Nat) (level : Int) : Prop where
  inside : ∀ k, OnLevel level k → k ≤ places k
  past_old : ∀ k, OnLevel level k → n < places k → OnLevel level (k - 2) ∧ n ≤ places (k - 2)
  past_new : ∀ k, OnLevel level k → m < places k - k →
    OnLevel level (k + 2) ∧ (m : Int) ≤ places (k + 2) - (k + 2)

/-- The search has not met the other one: near the diagonal between the ends, it is at the end of neither list. -/
def Unmet (n m : Nat) (places : Int → Nat) (level : Int) : Prop :=
  ∀ k, OnLevel level k → -(level - 1) ≤ k - (n - m) → k - (n - m) ≤ level - 1 →
    places k < n ∧ (places k : Int) - k < m

def Advances (n m : Nat) (before after : Int → Nat) (edits : Nat) : Prop :=
  ∀ k, OnLevel edits k → ∃ run, after k = stepFrom before edits k + run ∧
    (0 < run → stepFrom before edits k + run ≤ n ∧ (stepFrom before edits k : Int) - k + run ≤ m)

theorem stepFrom_cases (places : Int → Nat) (onLevel : OnLevel edits k) :
    (stepFrom places edits k = places (k + 1) ∧ (edits = 0 ∨ OnLevel (edits - 1) (k + 1))) ∨
      (stepFrom places edits k = places (k - 1) + 1 ∧ OnLevel (edits - 1) (k - 1)) := by
  obtain ⟨low, high, even⟩ := onLevel
  rw [stepFrom]
  split
  · next above =>
    refine Or.inl ⟨rfl, ?_⟩
    rw [OnLevel]
    omega
  · next below =>
    refine Or.inr ⟨rfl, ?_⟩
    rw [OnLevel]
    omega

-- One edit more goes at least as far: with a line of the new list onto the diagonal below, with one of the old list
-- onto the diagonal above.
theorem le_stepFrom (places : Int → Nat) (onLevel : OnLevel (edits - 1) k) :
    (OnLevel edits (k - 1) ∧ places k ≤ stepFrom places edits (k - 1)) ∧
      OnLevel edits (k + 1) ∧ places k + 1 ≤ stepFrom places edits (k + 1) := by
  obtain ⟨low, high, even⟩ := onLevel
  simp only [OnLevel, stepFrom, show k - 1 + 1 = k by omega, show k + 1 - 1 = k by omega]
  refine ⟨⟨by omega, ?_⟩, by omega, ?_⟩
  · split <;> omega
  · split <;> omega

theorem Level.le_stepFrom (level : Level n m before (edits - 1))
    (onLevel : OnLevel edits k) : k ≤ stepFrom before edits k := by
  rcases stepFrom_cases before onLevel with ⟨same, none | above⟩ | ⟨same, below⟩
  · have := onLevel.2.1
    omega
  · have := level.inside _ above
    omega
  · have := level.inside _ below
    omega

theorem Advances.level (advances : Advances n m before after edits) (level : Level n m before (edits - 1))
    (first : edits = 0 → before 1 = 0) : Level n m after edits := by
  -- What is past an end was so before the run.
  have start : ∀ k, OnLevel edits k → stepFrom before edits k ≤ after k ∧
      (n < after k → n < stepFrom before edits k) ∧
      ((m : Int) < after k - k → (m : Int) < stepFrom before edits k - k) := by
    intro k onLevel
    obtain ⟨run, same, ends⟩ := advances k onLevel
    omega
  have zero : ∀ k, OnLevel edits k → edits = 0 → k = 0 ∧ before (k + 1) = 0 := by
    rintro k ⟨low, high, _⟩ none
    obtain rfl : k = 0 := by omega
    exact ⟨rfl, first none⟩
  constructor
  · intro k onLevel
    have := level.le_stepFrom onLevel
    have := (start k onLevel).1
    omega
  · intro k onLevel past
    have past := (start k onLevel).2.1 past
    have behind : OnLevel (edits - 1) (k - 1) ∧ n ≤ before (k - 1) := by
      rcases stepFrom_cases before onLevel with ⟨same, none | above⟩ | ⟨same, below⟩
      · have := zero k onLevel none
        omega
      · have next := level.past_old _ above (by omega)
        rwa [show k + 1 - 2 = k - 1 by omega] at next
      · exact ⟨below, by omega⟩
    obtain ⟨onNext, further⟩ := (le_stepFrom before behind.1).1
    rw [show k - 1 - 1 = k - 2 by omega] at onNext further
    exact ⟨onNext, by have := (start _ onNext).1; omega⟩
  · intro k onLevel past
    have past := (start k onLevel).2.2 past
    have behind : OnLevel (edits - 1) (k + 1) ∧ (m : Int) ≤ before (k + 1) - (k + 1) := by
      rcases stepFrom_cases before onLevel with ⟨same, none | above⟩ | ⟨same, below⟩
      · have := zero k onLevel none
        omega
      · exact ⟨above, by omega⟩
      · have next := level.past_new _ below (by omega)
        rwa [show k - 1 + 2 = k + 1 by omega] at next
    obtain ⟨onNext, further⟩ := (le_stepFrom before behind.1).2
    rw [show k + 1 + 1 = k + 2 by omega] at onNext further
    exact ⟨onNext, by have := (start _ onNext).1; omega⟩

theorem Level.start_within (level : Level n m before (edits - 1)) (unmet : Unmet n m before (edits - 1))
    (odd : (n + m) % 2 = 1) (onLevel : OnLevel edits k) (low : -((edits : Int) - 1) ≤ k - (n - m))
    (high : k - (n - m) ≤ (edits : Int) - 1) :
    stepFrom before edits k ≤ n ∧ (stepFrom before edits k : Int) - k ≤ m := by
  have parity := onLevel.2.2
  rcases stepFrom_cases before onLevel with ⟨same, none | above⟩ | ⟨same, below⟩
  · omega
  · by_cases near : k + 1 - (n - m) ≤ (edits : Int) - 2
    · have := unmet _ above (by omega) (by omega)
      omega
    · -- Past the old list, it would have met the other search on the diagonal below.
      have inside : before (k + 1) ≤ n := by
        refine Nat.le_of_not_lt fun past => ?_
        obtain ⟨onNext, reached⟩ := level.past_old _ above past
        have := onNext.1
        have := above.2.1
        have := unmet _ onNext (by omega) (by omega)
        omega
      omega
  · by_cases near : -((edits : Int) - 2) ≤ k - 1 - (n - m)
    · have := unmet _ below (by omega) (by omega)
      omega
    · have inside : (before (k - 1) : Int) - (k - 1) ≤ m := by
        refine Int.not_lt.mp fun past => ?_
        obtain ⟨onNext, reached⟩ := level.past_new _ below past
        have := onNext.2.1
        have := below.1
        have := unmet _ onNext (by omega) (by omega)
        omega
      omega

end Levels

section Reaches

variable {reach after other : Reach} {lines edits : Nat} {k d : Int} {old new : Array Text}

def Reach.Holds (reach : Reach) (lines : Nat) : Prop :=
  reach.middle = lines + 2 ∧ reach.farthest.size = 2 * lines + 5

theorem Reach.holds_empty (lines : Nat) : (Reach.empty lines).Holds lines := by
  simp [Reach.Holds, Reach.empty]

theorem Reach.get_empty (lines : Nat) (k : Int) : (Reach.empty lines).get k = 0 := by
  simp only [Reach.get, Reach.empty, Array.getElem?_replicate]
  split <;> rfl

theorem Reach.Holds.set (holds : reach.Holds lines) (d : Int) (place : Nat) : (reach.set d place).Holds lines := by
  simpa [Reach.Holds, Reach.set] using holds

theorem Reach.Holds.get_set (holds : reach.Holds lines) {place : Nat} (inside : d.natAbs ≤ lines + 2)
    (other : k.natAbs ≤ lines + 2) : (reach.set d place).get k = if k = d then place else reach.get k := by
  obtain ⟨middle, size⟩ := holds
  simp only [Reach.get, Reach.set, Array.getElem?_setIfInBounds, middle, size]
  by_cases same : k = d
  · rw [if_pos (by rw [same]), if_pos (by omega), if_pos same]
    rfl
  · rw [if_neg (by omega), if_neg same]

theorem mem_diagonals_iff : k ∈ diagonals edits ↔ OnLevel edits k := by
  simp only [diagonals, List.mem_map, List.mem_range, OnLevel]
  constructor
  · rintro ⟨i, less, rfl⟩
    omega
  · rintro ⟨low, high, even⟩
    exact ⟨((edits - k) / 2).toNat, by omega, by omega⟩

theorem equalRun_within (old new : Array Text) (fuel x y : Nat) (some : 0 < equalRun old new fuel x y) :
    x + equalRun old new fuel x y ≤ old.size ∧ y + equalRun old new fuel x y ≤ new.size := by
  induction fuel generalizing x y with
  | zero => simp [equalRun] at some
  | succ fuel ih =>
    rw [equalRun] at some ⊢
    split at some
    · next a b left right =>
      obtain ⟨inOld, _⟩ := Array.getElem?_eq_some_iff.mp left
      obtain ⟨inNew, _⟩ := Array.getElem?_eq_some_iff.mp right
      by_cases same : a = b
      · rw [if_pos same]
        rcases Nat.eq_zero_or_pos (equalRun old new fuel (x + 1) (y + 1)) with stops | goesOn
        · omega
        · have := ih (x + 1) (y + 1) goesOn
          omega
      · simp [same] at some
    · simp at some

-- A step reads the diagonals beside its own, and those are not changed with it.
theorem farthestRun_congr (same : ∀ d, d = k - 1 ∨ d = k + 1 → reach.get d = after.get d) :
    farthestRun old new reach edits k = farthestRun old new after edits k := by
  simp only [farthestRun, same _ (Or.inl rfl), same _ (Or.inr rfl)]

def arrival (old new : Array Text) (reach : Reach) (edits : Nat) (k : Int) : Nat :=
  (farthestRun old new reach edits k).2.1

theorem farthestRun_start (old new : Array Text) (reach : Reach) (edits : Nat) (k : Int) :
    (farthestRun old new reach edits k).1 =
      (stepFrom reach.get edits k, ((stepFrom reach.get edits k : Int) - k).toNat) := rfl

theorem arrival_advances (old new : Array Text) (reach : Reach) (edits : Nat) (k : Int)
    (inside : k ≤ stepFrom reach.get edits k) :
    ∃ run, arrival old new reach edits k = stepFrom reach.get edits k + run ∧
      (0 < run → stepFrom reach.get edits k + run ≤ old.size ∧
        (stepFrom reach.get edits k : Int) - k + run ≤ new.size) := by
  let x := stepFrom reach.get edits k
  let y := ((x : Int) - k).toNat
  refine ⟨equalRun old new old.size x y, rfl, fun some => ?_⟩
  have within := equalRun_within old new old.size x y some
  omega

def Meets (old new : Array Text) (other : Reach) (limit k : Int) (place : Nat) : Prop :=
  (k - (old.size - new.size)).natAbs ≤ limit ∧ old.size ≤ place + other.get (-(k - (old.size - new.size)))

theorem arrival_set (holds : reach.Holds lines) (few : edits ≤ lines) (onLevel : OnLevel edits k)
    (there : OnLevel edits d) (place : Nat) :
    farthestRun old new (reach.set d place) edits k = farthestRun old new reach edits k := by
  obtain ⟨low, high, even⟩ := onLevel
  obtain ⟨_, _, also⟩ := there
  apply farthestRun_congr
  intro beside next
  rw [holds.get_set (by omega) (by omega), if_neg (by omega)]

theorem sweep_none {ds : List Int} {limit : Int} (holds : reach.Holds lines) (few : edits ≤ lines)
    (onLevel : ∀ k ∈ ds, OnLevel edits k)
    (missed : sweep old new other edits limit ds reach = (none, after)) :
    after.Holds lines ∧
      (∀ k : Int, k.natAbs ≤ lines + 2 →
        after.get k = if k ∈ ds then arrival old new reach edits k else reach.get k) ∧
      ∀ k ∈ ds, ¬ Meets old new other limit k (arrival old new reach edits k) := by
  induction ds generalizing reach with
  | nil =>
    simp only [sweep, Prod.mk.injEq, true_and] at missed
    subst missed
    exact ⟨holds, by simp, by simp⟩
  | cons d ds ih =>
    have here := onLevel d List.mem_cons_self
    have others := fun k member => onLevel k (List.mem_cons_of_mem d member)
    simp only [sweep] at missed
    split at missed
    · simp at missed
    · next apart =>
      obtain ⟨kept, places, clear⟩ := ih (holds.set d _) others missed
      have same : ∀ k ∈ ds, arrival old new (reach.set d (farthestRun old new reach edits d).2.1) edits k =
          arrival old new reach edits k := by
        intro k member
        rw [arrival, arrival_set holds few (others k member) here, arrival]
      refine ⟨kept, fun k inRange => ?_, fun k member => ?_⟩
      · rw [places k inRange]
        by_cases later : k ∈ ds
        · rw [if_pos later, if_pos (List.mem_cons_of_mem d later)]
          exact same k later
        · rw [if_neg later, holds.get_set (by have := here.1; have := here.2.1; omega) inRange]
          by_cases first : k = d
          · simp [first, arrival]
          · simp [first, later]
      · rcases List.mem_cons.mp member with rfl | later
        · exact apart
        · have := clear k later
          rwa [same k later] at this

-- A sweep over all diagonals is one edit more.
theorem sweep_level {limit : Int} (holds : reach.Holds lines) (few : edits ≤ lines)
    (level : Level old.size new.size reach.get (edits - 1)) (first : edits = 0 → reach.get 1 = 0)
    (missed : sweep old new other edits limit (diagonals edits) reach = (none, after)) :
    after.Holds lines ∧ Level old.size new.size after.get edits ∧
      ∀ k, OnLevel edits k → ¬ Meets old new other limit k (after.get k) := by
  obtain ⟨kept, places, clear⟩ := sweep_none holds few (fun k => mem_diagonals_iff.mp) missed
  have arrives : ∀ k, OnLevel edits k → after.get k = arrival old new reach edits k := by
    intro k onLevel
    rw [places k (by have := onLevel.1; have := onLevel.2.1; omega), if_pos (mem_diagonals_iff.mpr onLevel)]
  have advances : Advances old.size new.size reach.get after.get edits := by
    intro k onLevel
    rw [arrives k onLevel]
    exact arrival_advances old new reach edits k (level.le_stepFrom onLevel)
  refine ⟨kept, advances.level level first, fun k onLevel => ?_⟩
  rw [arrives k onLevel]
  exact clear k (mem_diagonals_iff.mpr onLevel)

theorem sweep_some {ds : List Int} {limit : Int} {start stop : Point} (holds : reach.Holds lines)
    (few : edits ≤ lines) (onLevel : ∀ k ∈ ds, OnLevel edits k)
    (met : sweep old new other edits limit ds reach = (some (start, stop), after)) :
    ∃ k, OnLevel edits k ∧ (k - (old.size - new.size)).natAbs ≤ limit ∧
      start = (farthestRun old new reach edits k).1 := by
  induction ds generalizing reach with
  | nil => simp [sweep] at met
  | cons d ds ih =>
    have here := onLevel d List.mem_cons_self
    simp only [sweep] at met
    split at met
    · next meets =>
      simp only [Prod.mk.injEq, Option.some.injEq] at met
      exact ⟨d, here, meets.1, met.1.1.symm⟩
    · obtain ⟨k, there, near, same⟩ := ih (holds.set d _) (fun k member => onLevel k (List.mem_cons_of_mem d member)) met
      exact ⟨k, there, near, by rw [same, arrival_set holds few there here]⟩

end Reaches

section Middle

variable {old new : Array Text} {lines edits fuel : Nat} {forward backward : Reach}

/-- What is known of both searches before they go on with that many edits. -/
structure Apart (old new : Array Text) (lines edits : Nat) (forward backward : Reach) : Prop where
  holds : forward.Holds lines ∧ backward.Holds lines
  forwards : Level old.size new.size forward.get (edits - 1)
  backwards : Level old.size new.size backward.get (edits - 1)
  first : edits = 0 → forward.get 1 = 0 ∧ backward.get 1 = 0
  unmet : (old.size + new.size) % 2 = 1 → Unmet old.size new.size forward.get (edits - 1)

theorem apart_empty (old new : Array Text) (lines : Nat) :
    Apart old new lines 0 (Reach.empty lines) (Reach.empty lines) := by
  have none (k : Int) : ¬ OnLevel ((0 : Nat) - 1) k := by
    rintro ⟨low, high, _⟩
    omega
  have level (places : Int → Nat) : Level old.size new.size places ((0 : Nat) - 1) :=
    ⟨fun k on => absurd on (none k), fun k on => absurd on (none k), fun k on => absurd on (none k)⟩
  exact ⟨⟨Reach.holds_empty lines, Reach.holds_empty lines⟩, level _, level _,
    fun _ => ⟨Reach.get_empty lines 1, Reach.get_empty lines 1⟩, fun _ k on => absurd on (none k)⟩

-- Where the searches do not meet, the places of one and those of the other do not make up the old list.
theorem unmet_of_apart {limit : Int} (level : Level old.size new.size backward.get (edits - 1))
    (odd : (old.size + new.size) % 2 = 1) (limited : limit = (edits : Int) - 1)
    (clear : ∀ k, OnLevel edits k → ¬ Meets old new backward limit k (forward.get k)) :
    Unmet old.size new.size forward.get edits := by
  intro k onLevel low high
  have missed := clear k onLevel
  obtain ⟨_, _, even⟩ := onLevel
  have across : OnLevel (edits - 1) (-(k - (old.size - new.size))) := ⟨by omega, by omega, by omega⟩
  have := level.inside _ across
  rw [Meets] at missed
  omega

theorem middle?_within (apart : Apart old new lines edits forward backward) (few : fuel + edits ≤ lines + 1)
    {split : Point} (found : middle? old new fuel edits forward backward = some split) :
    split.1 ≤ old.size ∧ split.2 ≤ new.size := by
  induction fuel generalizing edits forward backward with
  | zero => simp [middle?] at found
  | succ fuel ih =>
    simp only [middle?] at found
    split at found
    · next start stop after met =>
      obtain ⟨k, onLevel, near, same⟩ :=
        sweep_some apart.holds.1 (by omega) (fun k => mem_diagonals_iff.mp) met
      simp only [Option.some.injEq] at found
      rw [← found, same, farthestRun_start]
      split at near
      · next odd =>
        have within := apart.forwards.start_within (apart.unmet odd) odd onLevel (by omega) (by omega)
        exact ⟨within.1, by omega⟩
      · omega
    · next forward' missed =>
      obtain ⟨holds, level, clear⟩ :=
        sweep_level apart.holds.1 (by omega) apart.forwards (fun none => (apart.first none).1) missed
      split at found
      · simp only [Option.some.injEq] at found
        rw [← found]
        exact ⟨Nat.sub_le _ _, Nat.sub_le _ _⟩
      · next backward' missed' =>
        have sizes : old.reverse.size = old.size ∧ new.reverse.size = new.size := by simp
        have backwards := apart.backwards
        rw [← sizes.1, ← sizes.2] at backwards
        obtain ⟨holds', level', _⟩ :=
          sweep_level apart.holds.2 (by omega) backwards (fun none => (apart.first none).2) missed'
        rw [sizes.1, sizes.2] at level'
        have next : ((edits + 1 : Nat) : Int) - 1 = edits := by omega
        refine ih ⟨⟨holds, holds'⟩, by rwa [next], by rwa [next], fun none => by omega, fun odd => ?_⟩
          (by omega) found
        rw [next]
        exact unmet_of_apart apart.backwards odd (if_pos odd) clear

/-- Lists are split at a point that is within both. -/
theorem split?_within {old new : List Text} {split : Point} (found : split? old new = some split) :
    split.1 ≤ old.length ∧ split.2 ≤ new.length := by
  have apart := apart_empty old.toArray new.toArray (old.length + new.length)
  simpa using middle?_within apart (Nat.le_refl _) found

end Middle

end TextMigration.LineDiff
