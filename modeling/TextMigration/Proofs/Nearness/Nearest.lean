import TextMigration.Proofs.Checking.Refused
import TextMigration.Proofs.Nearness.Edits
import TextMigration.Proofs.Nearness.Fractions

/-!
The line that is nearest to what was looked for. The candidates are the lines that are not blank and near, under
their numbers (`mem_candidates_iff`). Going through them keeps the first of the most alike (`isBest_concat`), so what
is left at the end is the first of the most alike of all lines (`nearest_exact`).
-/

namespace TextMigration

namespace NearMiss

def IsProbe (target probe : Text) : Prop := ∃ front line back, target.lines = front ++ line :: back ∧
  (∀ other ∈ front, other.trim = []) ∧ line.trim = probe ∧ probe ≠ []

/-- The line at a place is not blank and like enough; no line that is not blank is more like the probe, and none
before it is as much like it. -/
structure IsNearest (probe : Text) (lines : List Text) (place : Nat) (line : Text) : Prop where
  here : lines[place]? = some line
  nonblank : line.trim ≠ []
  near : 3 / 4 ≤ probe.likeness line.trim
  most : ∀ (i : Nat) (other : Text), lines[i]? = some other → other.trim ≠ [] →
    probe.likeness other.trim ≤ probe.likeness line.trim
  first : ∀ (i : Nat) (other : Text), i < place → lines[i]? = some other → other.trim ≠ [] →
    probe.likeness other.trim < probe.likeness line.trim

structure IsBest (candidates : List Candidate) (best : Candidate) : Prop where
  inside : best ∈ candidates
  most : ∀ other ∈ candidates, other.similarity.ratio ≤ best.similarity.ratio
  first : ∀ other ∈ candidates, other.line < best.line → other.similarity.ratio < best.similarity.ratio

structure Ordered (candidates : List Candidate) : Prop where
  lines : candidates.Pairwise fun one other => one.line < other.line
  sized : ∀ candidate ∈ candidates, 0 < candidate.similarity.length

variable {target probe line : Text} {lines : List Text} {place number : Nat} {candidate next held : Candidate}
  {known : List Candidate}

theorem probe?_eq_some_iff : probe? target = some probe ↔ IsProbe target probe := by
  rw [probe?, List.find?_map, Option.map_eq_some_iff]
  simp only [List.find?_eq_some_iff_append, Function.comp_apply]
  constructor
  · rintro ⟨line, ⟨some, front, back, whole, blank⟩, rfl⟩
    exact ⟨front, line, back, whole, by simpa using blank, rfl, by simpa using some⟩
  · rintro ⟨front, line, back, whole, blank, rfl, some⟩
    exact ⟨line, ⟨by simpa using some, front, back, whole, by simpa using blank⟩, rfl⟩

theorem probe?_eq_none_iff : probe? target = none ↔ ∀ line ∈ target.lines, line.trim = [] := by
  simp [probe?]

theorem length_between_pos (nonempty : line ≠ []) : 0 < (Similarity.between probe line).length :=
  lt_max_of_lt_right (List.length_pos_iff.mpr nonempty)

theorem kept_iff : (!line.trim.isEmpty && (Similarity.between probe line.trim).isNear) = true ↔
    line.trim ≠ [] ∧ 3 / 4 ≤ probe.likeness line.trim := by
  rw [Bool.and_eq_true, Bool.not_eq_true', List.isEmpty_eq_false_iff]
  refine and_congr_right fun nonblank => ?_
  rw [Similarity.isNear_iff (length_between_pos nonblank), Similarity.ratio_between]

theorem mem_candidates_iff : candidate ∈ candidates probe number lines ↔
    ∃ i line, lines[i]? = some line ∧ (line.trim ≠ [] ∧ 3 / 4 ≤ probe.likeness line.trim) ∧
      candidate = ⟨number + i, line.trim, Similarity.between probe line.trim⟩ := by
  induction lines generalizing number with
  | nil => simp [candidates]
  | cons first rest ih =>
    have shift (i : Nat) : number + 1 + i = number + (i + 1) := by omega
    rw [← Nat.or_exists_add_one]
    simp only [candidates, kept_iff, List.getElem?_cons_zero, List.getElem?_cons_succ, Option.some.injEq,
      exists_eq_left', Nat.add_zero]
    split
    · next kept => simp [ih, kept, shift]
    · next skipped => simp [ih, skipped, shift]

theorem mem_candidates (number : Nat) (here : lines[place]? = some line) (nonblank : line.trim ≠ [])
    (near : 3 / 4 ≤ probe.likeness line.trim) :
    ⟨number + place, line.trim, Similarity.between probe line.trim⟩ ∈ candidates probe number lines :=
  mem_candidates_iff.mpr ⟨place, line, here, ⟨nonblank, near⟩, rfl⟩

theorem ordered_candidates (probe : Text) (number : Nat) (lines : List Text) :
    Ordered (candidates probe number lines) := by
  constructor
  · induction lines generalizing number with
    | nil => exact .nil
    | cons first rest ih =>
      simp only [candidates]
      split
      · refine .cons ?_ (ih _)
        intro other later
        obtain ⟨i, line, _, _, rfl⟩ := mem_candidates_iff.mp later
        dsimp only
        omega
      · exact ih _
  · intro candidate inside
    obtain ⟨i, line, _, ⟨nonblank, _⟩, rfl⟩ := mem_candidates_iff.mp inside
    exact length_between_pos nonblank

/-- One more candidate: the best one stays unless the new one is more alike. -/
theorem isBest_concat (ordered : Ordered (known ++ [next])) (best : IsBest known held) :
    IsBest (known ++ [next]) (if held.similarity.below next.similarity then next else held) := by
  have before : ∀ other ∈ known, other.line < next.line := by
    simpa using (List.pairwise_append.mp ordered.lines).2.2
  have worse := Similarity.below_iff (ordered.sized held (by simp [best.inside])) (ordered.sized next (by simp))
  split
  · next below =>
    have more := worse.mp below
    refine ⟨by simp, ?_, ?_⟩
    · intro other inside
      rcases List.mem_append.mp inside with old | new
      · exact (best.most other old).trans more.le
      · rw [List.mem_singleton.mp new]
    · intro other inside earlier
      rcases List.mem_append.mp inside with old | new
      · exact (best.most other old).trans_lt more
      · rw [List.mem_singleton.mp new] at earlier
        exact absurd earlier (lt_irrefl _)
  · next stays =>
    have less := not_lt.mp fun more => stays (worse.mpr more)
    refine ⟨by simp [best.inside], ?_, ?_⟩
    · intro other inside
      rcases List.mem_append.mp inside with old | new
      · exact best.most other old
      · rwa [List.mem_singleton.mp new]
    · intro other inside earlier
      rcases List.mem_append.mp inside with old | new
      · exact best.first other old earlier
      · rw [List.mem_singleton.mp new] at earlier
        exact absurd earlier (before held best.inside).asymm

theorem isBest_best {candidates : List Candidate} (ordered : Ordered candidates) (nonempty : candidates ≠ []) :
    ∃ found, best candidates = some found ∧ IsBest candidates found := by
  -- From the end, as the fold takes up one candidate after the other.
  induction candidates using List.reverseRecOn with
  | nil => contradiction
  | append_singleton known next ih =>
    cases known with
    | nil => exact ⟨next, rfl, by simp, by simp, by simp⟩
    | cons first known =>
      have shorter : Ordered (first :: known) := ⟨(List.pairwise_append.mp ordered.lines).1,
        fun candidate inside => ordered.sized candidate (List.mem_append_left _ inside)⟩
      obtain ⟨held, made, isBest⟩ := ih shorter (by simp)
      refine ⟨_, ?_, isBest_concat ordered isBest⟩
      rw [best, List.foldl_concat, ← best, made, better]
      split <;> rfl

theorem IsBest.isNearest (isBest : IsBest (candidates probe number lines) candidate) : ∃ place line,
    IsNearest probe lines place line ∧
      candidate = ⟨number + place, line.trim, Similarity.between probe line.trim⟩ := by
  obtain ⟨place, line, here, ⟨nonblank, near⟩, rfl⟩ := mem_candidates_iff.mp isBest.inside
  refine ⟨place, line, ⟨here, nonblank, near, ?_, ?_⟩, rfl⟩
  · intro i other there some
    by_cases like : 3 / 4 ≤ probe.likeness other.trim
    · have most := isBest.most _ (mem_candidates number there some like)
      rwa [Similarity.ratio_between, Similarity.ratio_between] at most
    · exact (not_le.mp like).le.trans near
  · intro i other earlier there some
    by_cases like : 3 / 4 ≤ probe.likeness other.trim
    · have first := isBest.first _ (mem_candidates number there some like) (Nat.add_lt_add_left earlier _)
      rwa [Similarity.ratio_between, Similarity.ratio_between] at first
    · exact (not_le.mp like).trans_le near

theorem IsNearest.unique {place' : Nat} {line' : Text} (one : IsNearest probe lines place line)
    (other : IsNearest probe lines place' line') : place = place' ∧ line = line' := by
  have same : place = place' := by
    rcases lt_trichotomy place place' with earlier | same | later
    · exact absurd (other.first _ _ earlier one.here one.nonblank) (one.most _ _ other.here other.nonblank).not_gt
    · exact same
    · exact absurd (one.first _ _ later other.here other.nonblank) (other.most _ _ one.here one.nonblank).not_gt
  subst same
  exact ⟨rfl, Option.some.inj (one.here.symm.trans other.here)⟩

theorem best_candidates_eq_some_iff : best (candidates probe number lines) = some candidate ↔ ∃ place line,
    IsNearest probe lines place line ∧
      candidate = ⟨number + place, line.trim, Similarity.between probe line.trim⟩ := by
  constructor
  · intro made
    have nonempty : candidates probe number lines ≠ [] := by
      intro none
      rw [none] at made
      contradiction
    obtain ⟨found, same, isBest⟩ := isBest_best (ordered_candidates probe number lines) nonempty
    obtain rfl : candidate = found := Option.some.inj (made.symm.trans same)
    exact isBest.isNearest
  · rintro ⟨place, line, isNearest, rfl⟩
    have nonempty := List.ne_nil_of_mem (mem_candidates number isNearest.here isNearest.nonblank isNearest.near)
    obtain ⟨found, made, isBest⟩ := isBest_best (ordered_candidates probe number lines) nonempty
    obtain ⟨place', line', other, rfl⟩ := isBest.isNearest
    obtain ⟨rfl, rfl⟩ := isNearest.unique other
    exact made

theorem best_candidates_eq_none_iff : best (candidates probe number lines) = none ↔
    ∀ line ∈ lines, line.trim ≠ [] → probe.likeness line.trim < 3 / 4 := by
  constructor
  · intro none line inside nonblank
    obtain ⟨place, here⟩ := List.mem_iff_getElem?.mp inside
    refine not_le.mp fun near => ?_
    have nonempty := List.ne_nil_of_mem (mem_candidates number here nonblank near)
    obtain ⟨found, made, _⟩ := isBest_best (ordered_candidates probe number lines) nonempty
    rw [none] at made
    contradiction
  · intro far
    refine Option.eq_none_iff_forall_ne_some.mpr fun candidate made => ?_
    obtain ⟨place, line, isNearest, _⟩ := best_candidates_eq_some_iff.mp made
    exact absurd isNearest.near (far line (List.mem_of_getElem? isNearest.here) isNearest.nonblank).not_ge

def report (probe : Text) (place : Nat) (line : Text) : NearMiss :=
  ⟨place + 1, line.trim, false, (Similarity.between probe line.trim).value⟩

theorem nearest_of_probe {haystack : Text} (isProbe : IsProbe target probe) : nearest haystack target =
    (best (candidates probe 1 haystack.lines)).map fun found =>
      ⟨found.line, found.text, ⟨false, found.similarity.value⟩⟩ := by
  simp only [nearest, probe?_eq_some_iff.mpr isProbe, Option.bind_eq_bind, Option.bind_some]
  cases best (candidates probe 1 haystack.lines) <;> rfl

theorem nearest_of_blank {haystack : Text} (blank : ∀ line ∈ target.lines, line.trim = []) :
    nearest haystack target = none := by
  rw [nearest, probe?_eq_none_iff.mpr blank]
  rfl

theorem isProbe_or_blank (target : Text) : (∃ probe, IsProbe target probe) ∨ ∀ line ∈ target.lines, line.trim = [] := by
  cases found : probe? target with
  | none => exact .inr (probe?_eq_none_iff.mp found)
  | some probe => exact .inl ⟨probe, probe?_eq_some_iff.mp found⟩

theorem IsProbe.unique {other : Text} (one : IsProbe target probe) (also : IsProbe target other) : probe = other :=
  Option.some.inj ((probe?_eq_some_iff.mpr one).symm.trans (probe?_eq_some_iff.mpr also))

theorem IsProbe.not_blank (isProbe : IsProbe target probe) : ¬ ∀ line ∈ target.lines, line.trim = [] := by
  intro blank
  rw [← probe?_eq_none_iff, probe?_eq_some_iff.mpr isProbe] at blank
  contradiction

theorem nearest_eq_none_iff {haystack : Text} : nearest haystack target = none ↔
    (∀ line ∈ target.lines, line.trim = []) ∨ ∃ probe, IsProbe target probe ∧
      ∀ line ∈ haystack.lines, line.trim ≠ [] → probe.likeness line.trim < 3 / 4 := by
  rcases isProbe_or_blank target with ⟨probe, isProbe⟩ | blank
  · rw [nearest_of_probe isProbe, Option.map_eq_none_iff, best_candidates_eq_none_iff, or_iff_right isProbe.not_blank]
    refine ⟨fun far => ⟨probe, isProbe, far⟩, ?_⟩
    rintro ⟨other, also, far⟩
    exact isProbe.unique also ▸ far
  · exact iff_of_true (nearest_of_blank blank) (.inl blank)

theorem nearest_eq_some_iff {haystack : Text} {found : NearMiss} : nearest haystack target = some found ↔
    ∃ probe place line, IsProbe target probe ∧ IsNearest probe haystack.lines place line ∧
      found = report probe place line := by
  rcases isProbe_or_blank target with ⟨probe, isProbe⟩ | blank
  · simp only [nearest_of_probe isProbe, Option.map_eq_some_iff, best_candidates_eq_some_iff]
    constructor
    · rintro ⟨_, ⟨place, line, isNearest, rfl⟩, rfl⟩
      exact ⟨probe, place, line, isProbe, isNearest, by rw [report, Nat.add_comm]⟩
    · rintro ⟨other, place, line, also, isNearest, rfl⟩
      obtain rfl := isProbe.unique also
      exact ⟨_, ⟨place, line, isNearest, rfl⟩, by rw [report, Nat.add_comm]⟩
  · rw [nearest_of_blank blank]
    refine iff_of_false (by simp) ?_
    rintro ⟨probe, _, _, isProbe, _⟩
    exact isProbe.not_blank blank

theorem report_error (isNearest : IsNearest probe lines place line) :
    |(report probe place line).similarity.magnitude.toRat - probe.likeness line.trim| ≤ 1 / 2 ^ 52 := by
  have near := isNearest.near
  rw [← Similarity.ratio_between] at near ⊢
  exact Similarity.value_error (length_between_pos isNearest.nonblank) near

/-- There is no nearest line just when the target is blank or no line is near its first line that is not. Else the
nearest line is the first of those that are most like that one, and it is reported with its number, trimmed, and with
its likeness up to rounding. -/
theorem nearest_exact (haystack target : Text) :
    (∀ left right, IsLeast {count | Edits count left right} (editDistance left right)) ∧
    (nearest haystack target = none ↔ (∀ line ∈ target.lines, line.trim = []) ∨ ∃ probe, IsProbe target probe ∧
      ∀ line ∈ haystack.lines, line.trim ≠ [] → probe.likeness line.trim < 3 / 4) ∧
    (∀ found, nearest haystack target = some found ↔ ∃ probe place line, IsProbe target probe ∧
      IsNearest probe haystack.lines place line ∧ found = report probe place line) ∧
    ∀ probe place line, IsNearest probe haystack.lines place line →
      |(report probe place line).similarity.magnitude.toRat - probe.likeness line.trim| ≤ 1 / 2 ^ 52 :=
  ⟨editDistance_isLeast, nearest_eq_none_iff, fun _ => nearest_eq_some_iff, fun _ _ _ => report_error⟩

-- Lines 3 and 4 are equally like the target, and blank lines count.
example : (nearest "\n\r\n abce \nabcf".toList "\n abcd\n".toList).map NearMiss.line = some 3 := by decide

end NearMiss

end TextMigration
