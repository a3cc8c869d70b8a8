import TextMigration.Proofs.Diffing.Scripted

/-!
Moves keep a script. Each move changes a few edits that stand together, and what is put for them leads from the same
spot to the same spot (`Yields`); so the script that has come to rest leads through both lists as the first one did
(`settle_leads`). A dropped and an added stretch that pass each other do not change their notes of where they
would stand in the other list, so that these may be wrong from then on.
-/

namespace TextMigration.LineDiff

variable {old new : List Text} {before after later : List Edit} {o n length o' n' length' : Nat}

/-- Wherever the edits lead, the other edits lead as well. -/
def Yields (old new : List Text) (before after : List Edit) : Prop :=
  ∀ p q, q.Fits old new → Along (Edit.Leads old new) p before q → Along (Edit.Leads old new) p after q

theorem Yields.refl (edits : List Edit) : Yields old new edits edits := fun _ _ _ along => along

theorem Yields.trans (first : Yields old new before after) (second : Yields old new after later) :
    Yields old new before later :=
  fun p q fits along => second p q fits (first p q fits along)

theorem Yields.around (inner : Yields old new before after) (front back : List Edit) :
    Yields old new (front ++ (before ++ back)) (front ++ (after ++ back)) := by
  intro p q fits along
  obtain ⟨r, first, rest⟩ := along_append_iff.mp along
  obtain ⟨s, second, third⟩ := along_append_iff.mp rest
  exact along_append_iff.mpr ⟨r, first, along_append_iff.mpr ⟨s, inner r s (third.fits fits) second, third⟩⟩

section Steps

-- There are no empty stretches of kept lines.
theorem past_empty_keep (edit : Edit) : Yields old new [.keep o n 0, edit] [edit] := by
  intro p q _ along
  obtain ⟨r, ⟨⟨some, _⟩, _⟩, _⟩ := along_cons_iff.mp along
  exact absurd some (Nat.lt_irrefl 0)

theorem before_empty_keep (edit : Edit) : Yields old new [edit, .keep o n 0] [edit] := by
  intro p q _ along
  obtain ⟨r, _, along⟩ := along_cons_iff.mp along
  obtain ⟨s, ⟨⟨some, _⟩, _⟩, _⟩ := along_cons_iff.mp along
  exact absurd some (Nat.lt_irrefl 0)

theorem drop_past_add : Yields old new [.add o n length, .drop o' length' n'] [.drop o' length' n', .add o n length] := by
  intro p q _ along
  simp only [along_cons_iff, along_nil_iff, Edit.Leads] at along
  obtain ⟨r, first, s, second, rfl⟩ := along
  refine .cons (q := ⟨s.old, p.new, s.ahead⟩) ?_ (.cons ?_ .nil)
  · dsimp only [Edit.Leads]
    omega
  · dsimp only [Edit.Leads]
    omega

theorem add_past_drop : Yields old new [.drop o' length' n', .add o n length] [.add o n length, .drop o' length' n'] := by
  intro p q _ along
  simp only [along_cons_iff, along_nil_iff, Edit.Leads] at along
  obtain ⟨r, first, s, second, rfl⟩ := along
  refine .cons (q := ⟨p.old, s.new, s.ahead⟩) ?_ (.cons ?_ .nil)
  · dsimp only [Edit.Leads]
    omega
  · dsimp only [Edit.Leads]
    omega

theorem add_merged : Yields old new [.add o' n' length', .add o n length] [.add o' n' (length' + length)] := by
  intro p q _ along
  simp only [along_cons_iff, along_nil_iff, Edit.Leads] at along
  obtain ⟨r, first, s, second, rfl⟩ := along
  refine .cons ?_ .nil
  dsimp only [Edit.Leads]
  omega

theorem drop_merged : Yields old new [.drop o' length' n', .drop o length n] [.drop o' (length' + length) n'] := by
  intro p q _ along
  simp only [along_cons_iff, along_nil_iff, Edit.Leads] at along
  obtain ⟨r, first, s, second, rfl⟩ := along
  refine .cons ?_ .nil
  dsimp only [Edit.Leads]
  omega

theorem keep_joined : Yields old new [.keep o n length, .keep o' n' length'] [.keep o n (length + length')] := by
  intro p q _ along
  simp only [along_cons_iff, along_nil_iff, Edit.Leads] at along
  obtain ⟨r, ⟨first, agree⟩, s, ⟨second, agree'⟩, rfl⟩ := along
  rw [show o' = o + length by omega, show n' = n + length by omega] at agree'
  exact .cons ⟨by omega, agree_add_iff.mpr ⟨agree, agree'⟩⟩ .nil

theorem keep_grown_up :
    Yields old new [.keep o n length, .keep o' n' length'] [.keep (o' - length) (n' - length) (length' + length)] := by
  intro p q _ along
  simp only [along_cons_iff, along_nil_iff, Edit.Leads] at along
  obtain ⟨r, ⟨first, agree⟩, s, ⟨second, agree'⟩, rfl⟩ := along
  rw [show o' = o + length by omega, show n' = n + length by omega] at agree' ⊢
  have joined := agree_add_iff.mpr ⟨agree, agree'⟩
  rw [Nat.add_comm length' length, Nat.add_sub_cancel, Nat.add_sub_cancel]
  exact .cons ⟨by omega, joined⟩ .nil

-- The lines at the end of the kept stretch are those at the end of the added one.
theorem add_slid_up {shared : Nat} (some : 0 < shared)
    (same : shared = sharedEnd (slice old.toArray o' length') (slice new.toArray n length)) :
    Yields old new [.keep o' n' length', .add o n length]
      (keepSome o' n' (length' - shared) [.add (o - shared) (n - shared) length,
        .keep (o' + length' - shared) (n + length - shared) shared]) := by
  intro p q fits along
  simp only [along_cons_iff, along_nil_iff, Edit.Leads] at along
  obtain ⟨r, ⟨kept, agree⟩, s, added, rfl⟩ := along
  obtain ⟨fitsOld, fitsNew⟩ := fits
  have inOld := agree.inOld
  have inNew : n + length ≤ new.length := by omega
  obtain ⟨shortOld, shortNew, _⟩ := sharedEnd_same (slice old.toArray o' length') (slice new.toArray n length)
  have slid := agree_sharedEnd (at_slice inOld) (at_slice inNew)
  rw [← same, length_slice inOld] at shortOld slid
  rw [← same, length_slice inNew] at shortNew
  rw [length_slice inNew] at slid
  rw [show o' + (length' - shared) = o' + length' - shared by omega,
    show n + (length - shared) = n + length - shared by omega] at slid
  rw [show length' = length' - shared + shared by omega, agree_add_iff] at agree
  -- What is left of the kept stretch, then the two edits that follow it now.
  have rest : Along (Edit.Leads old new) ⟨o' + length' - shared, n - shared, s.ahead + shared⟩
      [.add (o - shared) (n - shared) length, .keep (o' + length' - shared) (n + length - shared) shared] s := by
    refine .cons (q := ⟨o' + length' - shared, n + length - shared, s.ahead + shared⟩) ?_ (.cons ⟨?_, slid⟩ .nil)
    · dsimp only [Edit.Leads]
      omega
    · dsimp only
      omega
  rw [along_keepSome_iff]
  split
  · next none =>
    have start : p = ⟨o' + length' - shared, n - shared, s.ahead + shared⟩ := by
      apply Spot.ext <;> dsimp only <;> omega
    rwa [start]
  · next left => exact ⟨_, ⟨by dsimp only; omega, agree.1⟩, rest⟩

-- The lines at the start of the kept stretch are those at the start of the added one.
theorem add_slid_down {shared : Nat} (some : 0 < shared)
    (same : shared = sharedStart (slice old.toArray o' length') (slice new.toArray n length)) :
    Yields old new [.add o n length, .keep o' n' length']
      ([.keep o' n shared, .add (o + shared) (n + shared) length] ++
        keepSome (o' + shared) (n' + shared) (length' - shared) []) := by
  intro p q fits along
  simp only [along_cons_iff, along_nil_iff, Edit.Leads] at along
  obtain ⟨r, added, s, ⟨kept, agree⟩, rfl⟩ := along
  obtain ⟨fitsOld, fitsNew⟩ := fits
  have inOld := agree.inOld
  have inNew : n + length ≤ new.length := by omega
  obtain ⟨shortOld, shortNew, _⟩ := sharedStart_same (slice old.toArray o' length') (slice new.toArray n length)
  have slid := agree_sharedStart (at_slice inOld) (at_slice inNew)
  rw [← same, length_slice inOld] at shortOld
  rw [← same] at slid
  rw [← same, length_slice inNew] at shortNew
  rw [show length' = shared + (length' - shared) by omega, agree_add_iff] at agree
  have rest := along_kept agree.2 s.ahead
  have stop : ⟨o' + shared + (length' - shared), n' + shared + (length' - shared), s.ahead⟩ = s := by
    apply Spot.ext <;> dsimp only <;> omega
  rw [stop] at rest
  refine .cons (q := ⟨o' + shared, n + shared, s.ahead + (length' - shared)⟩) ⟨?_, slid⟩ (.cons ?_ rest)
  · dsimp only
    omega
  · dsimp only [Edit.Leads]
    omega

end Steps

section Moves

variable {focus moved : Focus} {edit passed : Edit}

def Focus.edits (focus : Focus) : List Edit := focus.above.reverse ++ focus.edit :: focus.below

theorem Focus.edits_above (above below : List Edit) (passed edit : Edit) :
    Focus.edits ⟨passed :: above, edit, below⟩ = above.reverse ++ ([passed, edit] ++ below) := by
  simp [edits]

theorem Focus.edits_below (above below : List Edit) (passed edit : Edit) :
    Focus.edits ⟨above, edit, passed :: below⟩ = above.reverse ++ ([edit, passed] ++ below) := rfl

theorem keepSome_append (o n length : Nat) (front back : List Edit) :
    keepSome o n length front ++ back = keepSome o n length (front ++ back) := by
  rw [keepSome, keepSome]
  split <;> rfl

theorem reverse_keepSome (o n length : Nat) (above : List Edit) :
    (keepSome o n length above).reverse = above.reverse ++ keepSome o n length [] := by
  rw [keepSome, keepSome]
  split <;> simp

section Slides

variable {shared : Nat} {above below : List Edit}

theorem Focus.slid_up (some : shared ≠ 0)
    (same : sharedEnd (slice old.toArray o' length') (slice new.toArray n length) = shared) :
    Yields old new (above.reverse ++ ([.keep o' n' length', .add o n length] ++ below))
      (Focus.edits ⟨keepSome o' n' (length' - shared) above, .add (o - shared) (n - shared) length,
        .keep (o' + length' - shared) (n + length - shared) shared :: below⟩) := by
  simpa [edits, reverse_keepSome, keepSome_append] using
    (add_slid_up (Nat.pos_of_ne_zero some) same.symm).around above.reverse below

-- A kept stretch takes in the lines that are below the edit now.
theorem Focus.slid_up_grown (some : shared ≠ 0)
    (same : sharedEnd (slice old.toArray o' length') (slice new.toArray n length) = shared) {o'' n'' length'' : Nat} :
    Yields old new (above.reverse ++ ([.keep o' n' length', .add o n length] ++ .keep o'' n'' length'' :: below))
      (Focus.edits ⟨keepSome o' n' (length' - shared) above, .add (o - shared) (n - shared) length,
        .keep (o'' - shared) (n'' - shared) (length'' + shared) :: below⟩) := by
  let front := above.reverse ++ keepSome o' n' (length' - shared) [.add (o - shared) (n - shared) length]
  have grown : Yields old new
      (front ++ ([.keep (o' + length' - shared) (n + length - shared) shared, .keep o'' n'' length''] ++ below)) _ :=
    keep_grown_up.around front below
  refine (slid_up some same).trans (Yields.trans ?_ (grown.trans ?_))
  · simpa [front, edits, reverse_keepSome, keepSome_append] using Yields.refl _
  · simpa [front, edits, reverse_keepSome, keepSome_append] using Yields.refl _

theorem Focus.slid_down (some : shared ≠ 0)
    (same : sharedStart (slice old.toArray o' length') (slice new.toArray n length) = shared) :
    Yields old new (above.reverse ++ ([.add o n length, .keep o' n' length'] ++ below))
      (Focus.edits ⟨.keep o' n shared :: above, .add (o + shared) (n + shared) length,
        keepSome (o' + shared) (n' + shared) (length' - shared) below⟩) := by
  simpa [edits, keepSome_append] using
    (add_slid_down (Nat.pos_of_ne_zero some) same.symm).around above.reverse below

-- A kept stretch takes in the lines that are above the edit now.
theorem Focus.slid_down_grown (some : shared ≠ 0)
    (same : sharedStart (slice old.toArray o' length') (slice new.toArray n length) = shared) {o'' n'' length'' : Nat} :
    Yields old new
      ((Edit.keep o'' n'' length'' :: above).reverse ++ ([.add o n length, .keep o' n' length'] ++ below))
      (Focus.edits ⟨.keep o'' n'' (length'' + shared) :: above, .add (o + shared) (n + shared) length,
        keepSome (o' + shared) (n' + shared) (length' - shared) below⟩) := by
  have grown : Yields old new
      (above.reverse ++ ([.keep o'' n'' length'', .keep o' n shared] ++
        (.add (o + shared) (n + shared) length :: keepSome (o' + shared) (n' + shared) (length' - shared) below))) _ :=
    keep_joined.around above.reverse _
  refine (slid_down some same).trans (Yields.trans ?_ (grown.trans ?_))
  · simpa [edits] using Yields.refl _
  · simpa [edits] using Yields.refl _

end Slides

theorem Focus.up?_yields (found : focus.up? old.toArray new.toArray = some moved) :
    Yields old new focus.edits moved.edits := by
  obtain ⟨above, edit, below⟩ := focus
  rcases above with _ | ⟨passed, above⟩
  · cases edit <;> simp [up?] at found
  rw [edits_above]
  cases edit with
  | keep o n length => cases passed <;> simp [up?] at found
  | drop o length n =>
    cases passed with
    | keep o' n' length' =>
      simp only [up?, Option.ite_none_right_eq_some, Option.some.injEq] at found
      obtain ⟨rfl, rfl⟩ := found
      exact (past_empty_keep _).around above.reverse below
    | drop o' length' n' =>
      simp only [up?, Option.some.injEq] at found
      rw [← found]
      exact drop_merged.around above.reverse below
    | add o' n' length' =>
      simp only [up?, Option.some.injEq] at found
      rw [← found]
      exact drop_past_add.around above.reverse below
  | add o n length =>
    cases passed with
    | keep o' n' length' =>
      simp only [up?] at found
      generalize same : sharedEnd (slice old.toArray o' length') (slice new.toArray n length) = shared at found
      split at found
      · simp only [Option.ite_none_right_eq_some, Option.some.injEq] at found
        obtain ⟨rfl, rfl⟩ := found
        exact (past_empty_keep _).around above.reverse below
      · next some =>
        simp only [Option.some.injEq] at found
        subst found
        rcases below with _ | ⟨_ | _ | _, below⟩
        · exact slid_up some same
        · exact slid_up_grown some same
        · exact slid_up some same
        · exact slid_up some same
    | drop o' length' n' =>
      simp only [up?, Option.some.injEq] at found
      rw [← found]
      exact add_past_drop.around above.reverse below
    | add o' n' length' =>
      simp only [up?, Option.some.injEq] at found
      rw [← found]
      exact add_merged.around above.reverse below

theorem Focus.down?_yields (found : focus.down? old.toArray new.toArray = some moved) :
    Yields old new focus.edits moved.edits := by
  obtain ⟨above, edit, below⟩ := focus
  rcases below with _ | ⟨passed, below⟩
  · cases edit <;> simp [down?] at found
  rw [edits_below]
  cases edit with
  | keep o n length => cases passed <;> simp [down?] at found
  | drop o length n =>
    cases passed with
    | keep o' n' length' =>
      simp only [down?, Option.ite_none_right_eq_some, Option.some.injEq] at found
      obtain ⟨rfl, rfl⟩ := found
      exact (before_empty_keep _).around above.reverse below
    | drop o' length' n' =>
      simp only [down?, Option.some.injEq] at found
      rw [← found]
      exact drop_merged.around above.reverse below
    | add o' n' length' =>
      simp only [down?, Option.some.injEq] at found
      rw [← found, edits_above]
      exact add_past_drop.around above.reverse below
  | add o n length =>
    cases passed with
    | keep o' n' length' =>
      simp only [down?] at found
      generalize same : sharedStart (slice old.toArray o' length') (slice new.toArray n length) = shared at found
      split at found
      · simp only [Option.ite_none_right_eq_some, Option.some.injEq] at found
        obtain ⟨rfl, rfl⟩ := found
        exact (before_empty_keep _).around above.reverse below
      · next some =>
        simp only [Option.some.injEq] at found
        subst found
        rcases above with _ | ⟨_ | _ | _, above⟩
        · exact slid_down some same
        · exact slid_down_grown some same
        · exact slid_down some same
        · exact slid_down some same
    | drop o' length' n' =>
      simp only [down?, Option.some.injEq] at found
      rw [← found, edits_above]
      exact drop_past_add.around above.reverse below
    | add o' n' length' =>
      simp only [down?, Option.some.injEq] at found
      rw [← found]
      exact add_merged.around above.reverse below

theorem Focus.moveAll_yields {move? : Focus → Option Focus}
    (moves : ∀ {focus moved : Focus}, move? focus = some moved → Yields old new focus.edits moved.edits)
    (fuel : Nat) (focus : Focus) : Yields old new focus.edits (moveAll move? fuel focus).edits := by
  induction fuel generalizing focus with
  | zero => exact Yields.refl _
  | succ fuel ih =>
    rw [moveAll]
    split
    · next moved found => exact (moves found).trans (ih moved)
    · exact Yields.refl _

theorem settleFrom_yields (isMoved : Edit → Bool) (moves fuel : Nat) (above below : List Edit) :
    Yields old new (above.reverse ++ below) (settleFrom old.toArray new.toArray isMoved moves fuel above below) := by
  induction fuel generalizing above below with
  | zero => exact Yields.refl _
  | succ fuel ih =>
    cases below with
    | nil => simpa [settleFrom] using Yields.refl above.reverse
    | cons edit below =>
      rw [settleFrom]
      split
      · let risen := Focus.moveAll (Focus.up? old.toArray new.toArray) moves ⟨above, edit, below⟩
        let settled := Focus.moveAll (Focus.down? old.toArray new.toArray) moves risen
        have up : Yields old new (above.reverse ++ edit :: below) risen.edits :=
          Focus.moveAll_yields Focus.up?_yields moves ⟨above, edit, below⟩
        have down : Yields old new risen.edits settled.edits := Focus.moveAll_yields Focus.down?_yields moves risen
        have next := ih (settled.edit :: settled.above) settled.below
        rw [List.reverse_cons, List.append_assoc] at next
        exact (up.trans down).trans next
      · simpa using ih (edit :: above) below

/-- The script at rest leads through both lists as the script does. -/
theorem settle_leads (old new : List Text) :
    ∃ ahead, Along (Edit.Leads old new) ⟨0, 0, ahead⟩ (settle old.toArray new.toArray (script old new))
      ⟨old.length, new.length, 0⟩ := by
  obtain ⟨ahead, leads⟩ := script_leads old new
  have yields : Yields old new (script old new) (settle old.toArray new.toArray (script old new)) :=
    (settleFrom_yields Edit.isDrop _ _ [] _).trans (settleFrom_yields Edit.isAdd _ _ [] _)
  exact ⟨ahead, yields _ _ ⟨by simp, by simp⟩ leads⟩

end Moves

end TextMigration.LineDiff
