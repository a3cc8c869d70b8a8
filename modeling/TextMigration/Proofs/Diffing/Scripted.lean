import TextMigration.LineDiff.Settle
import TextMigration.Proofs.Diffing.Splitting
import TextMigration.Proofs.Diffing.Stretches

/-!
A script leads through both lists, from their starts to their ends: what it keeps is the same in both, what it drops
is next in the old list, and what it adds is next in the new one (`script_leads`). An edit also notes where it would
stand in the other list. That place may be wrong, but not by so much that the lines which are still to be kept would
not fit behind it.
-/

namespace TextMigration.LineDiff

/-- How far a script has come: the lines before it in both lists, and the number of lines that it is still to keep. -/
@[ext] structure Spot where
  old : Nat
  new : Nat
  ahead : Nat

structure Spot.Fits (old new : List Text) (spot : Spot) : Prop where
  inOld : spot.old + spot.ahead ≤ old.length
  inNew : spot.new + spot.ahead ≤ new.length

def Edit.Leads (old new : List Text) : Edit → Spot → Spot → Prop
  | keep o n length, p, q => (0 < length ∧ p.old = o ∧ p.new = n ∧ p.ahead = q.ahead + length ∧
      q.old = o + length ∧ q.new = n + length) ∧ Agree old new o n length
  | drop o length n, p, q => p.old = o ∧ p.new = q.new ∧ p.ahead = q.ahead ∧ q.old = o + length ∧
      o + length ≤ old.length ∧ n + q.ahead ≤ new.length
  | add o n length, p, q => p.old = q.old ∧ p.new = n ∧ p.ahead = q.ahead ∧ q.new = n + length ∧
      n + length ≤ new.length ∧ o + q.ahead ≤ old.length

variable {old new oldPart newPart : List Text} {edit : Edit} {edits : List Edit} {p q : Spot}
  {oldStart newStart fuel k : Nat}

theorem Edit.Leads.fits (leads : edit.Leads old new p q) (fits : q.Fits old new) : p.Fits old new := by
  obtain ⟨inOld, inNew⟩ := fits
  cases edit with
  | keep o n length =>
    obtain ⟨_, _⟩ := leads
    constructor <;> omega
  | drop o length n =>
    rw [Leads] at leads
    constructor <;> omega
  | add o n length =>
    rw [Leads] at leads
    constructor <;> omega

theorem Along.fits (along : Along (Edit.Leads old new) p edits q) (fits : q.Fits old new) : p.Fits old new := by
  induction along with
  | nil => exact fits
  | cons first _ ih => exact first.fits (ih fits)

theorem along_keepSome_iff {o n length : Nat} :
    Along (Edit.Leads old new) p (keepSome o n length edits) q ↔
      if length = 0 then Along (Edit.Leads old new) p edits q
      else ∃ r, (Edit.keep o n length).Leads old new p r ∧ Along (Edit.Leads old new) r edits q := by
  rw [keepSome]
  split
  · rfl
  · rw [along_cons_iff]

-- What both stretches begin or end with is kept, if there is any.
theorem along_kept {o n length : Nat} (agree : Agree old new o n length) (k : Nat) :
    Along (Edit.Leads old new) ⟨o, n, k + length⟩ (keepSome o n length []) ⟨o + length, n + length, k⟩ := by
  rw [along_keepSome_iff]
  split
  · next none => simp [none]
  · next some => exact ⟨_, ⟨by dsimp only; omega, agree⟩, .nil⟩

-- One stretch is dropped and the other one added, wherever the added one is said to stand.
theorem along_replaced {beside : Nat} (near : beside ≤ oldStart + oldPart.length)
    (fits : Spot.Fits old new ⟨oldStart + oldPart.length, newStart + newPart.length, k⟩) :
    Along (Edit.Leads old new) ⟨oldStart, newStart, k⟩
      [.drop oldStart oldPart.length newStart, .add beside newStart newPart.length]
      ⟨oldStart + oldPart.length, newStart + newPart.length, k⟩ := by
  obtain ⟨inOld, inNew⟩ := fits
  simp only at inOld inNew
  refine .cons (q := ⟨oldStart + oldPart.length, newStart, k⟩) ?_ (.cons ?_ .nil)
  · dsimp only [Edit.Leads]
    omega
  · dsimp only [Edit.Leads]
    omega

/-- The script between two stretches that neither begin nor end alike. -/
def coreFrom (fuel oldStart newStart : Nat) (old new : List Text) : List Edit :=
  if old.isEmpty ∧ new.isEmpty then []
  else if new.isEmpty then [.drop oldStart old.length newStart]
  else if old.isEmpty then [.add oldStart newStart new.length]
  else
    match split? old new with
    | some (x, y) =>
      scriptFrom fuel oldStart newStart (old.take x) (new.take y) ++
        scriptFrom fuel (oldStart + x) (newStart + y) (old.drop x) (new.drop y)
    | none => [.drop oldStart old.length newStart, .add oldStart newStart new.length]

theorem scriptFrom_succ (fuel : Nat) (oldAt : At old oldPart oldStart) (newAt : At new newPart newStart) :
    ∃ lead trail oldCore newCore,
      scriptFrom (fuel + 1) oldStart newStart oldPart newPart =
        keepSome oldStart newStart lead [] ++ coreFrom fuel (oldStart + lead) (newStart + lead) oldCore newCore ++
          keepSome (oldStart + lead + oldCore.length) (newStart + lead + newCore.length) trail [] ∧
      Agree old new oldStart newStart lead ∧ At old oldCore (oldStart + lead) ∧ At new newCore (newStart + lead) ∧
      Agree old new (oldStart + lead + oldCore.length) (newStart + lead + newCore.length) trail ∧
      oldStart + lead + oldCore.length + trail = oldStart + oldPart.length ∧
      newStart + lead + newCore.length + trail = newStart + newPart.length := by
  obtain ⟨leadOld, leadNew, _⟩ := sharedStart_same oldPart newPart
  have oldRest := oldAt.drop leadOld
  have newRest := newAt.drop leadNew
  have trailing := agree_sharedEnd oldRest newRest
  obtain ⟨trailOld, trailNew, _⟩ :=
    sharedEnd_same (oldPart.drop (sharedStart oldPart newPart)) (newPart.drop (sharedStart oldPart newPart))
  refine ⟨_, _, _, _, rfl, agree_sharedStart oldAt newAt, oldRest.take _, newRest.take _, ?_, ?_, ?_⟩
  · rwa [List.length_take_of_le (Nat.sub_le _ _), List.length_take_of_le (Nat.sub_le _ _)]
  · rw [List.length_take_of_le (Nat.sub_le _ _)]
    rw [List.length_drop] at *
    omega
  · rw [List.length_take_of_le (Nat.sub_le _ _)]
    rw [List.length_drop] at *
    omega

def Bridges (old new : List Text) (script : Nat → Nat → List Text → List Text → List Edit) : Prop :=
  ∀ {oldStart newStart k : Nat} {oldPart newPart : List Text},
    At old oldPart oldStart → At new newPart newStart →
      Spot.Fits old new ⟨oldStart + oldPart.length, newStart + newPart.length, k⟩ →
        ∃ ahead, Along (Edit.Leads old new) ⟨oldStart, newStart, ahead⟩ (script oldStart newStart oldPart newPart)
          ⟨oldStart + oldPart.length, newStart + newPart.length, k⟩

-- The second half is led through first, since it is known only at the end what is still to be kept.
theorem Bridges.halves {script : Nat → Nat → List Text → List Text → List Edit} (bridges : Bridges old new script)
    {x y : Nat} (shortOld : x ≤ oldPart.length) (shortNew : y ≤ newPart.length) (oldAt : At old oldPart oldStart)
    (newAt : At new newPart newStart)
    (fits : Spot.Fits old new ⟨oldStart + oldPart.length, newStart + newPart.length, k⟩) :
    ∃ ahead, Along (Edit.Leads old new) ⟨oldStart, newStart, ahead⟩
      (script oldStart newStart (oldPart.take x) (newPart.take y) ++
        script (oldStart + x) (newStart + y) (oldPart.drop x) (newPart.drop y))
      ⟨oldStart + oldPart.length, newStart + newPart.length, k⟩ := by
  have oldLength : oldStart + x + (oldPart.drop x).length = oldStart + oldPart.length := by
    rw [List.length_drop]
    omega
  have newLength : newStart + y + (newPart.drop y).length = newStart + newPart.length := by
    rw [List.length_drop]
    omega
  obtain ⟨middle, second⟩ := bridges (oldAt.drop shortOld) (newAt.drop shortNew) (k := k) (by rwa [oldLength, newLength])
  rw [oldLength, newLength] at second
  have takenOld : (oldPart.take x).length = x := List.length_take_of_le shortOld
  have takenNew : (newPart.take y).length = y := List.length_take_of_le shortNew
  obtain ⟨ahead, first⟩ := bridges (oldAt.take x) (newAt.take y) (k := middle) (by
    rw [takenOld, takenNew]
    exact second.fits fits)
  rw [takenOld, takenNew] at first
  exact ⟨ahead, along_append_iff.mpr ⟨_, first, second⟩⟩

theorem coreFrom_bridges (bridges : Bridges old new (scriptFrom fuel)) : Bridges old new (coreFrom fuel) := by
  intro oldStart newStart k oldPart newPart oldAt newAt fits
  have inOld := fits.inOld
  have inNew := fits.inNew
  simp only at inOld inNew
  rw [coreFrom]
  split
  · next empty =>
    obtain ⟨noOld, noNew⟩ := empty
    rw [List.isEmpty_iff] at noOld noNew
    subst noOld noNew
    exact ⟨k, .nil⟩
  split
  · next noNew =>
    rw [List.isEmpty_iff] at noNew
    subst noNew
    refine ⟨k, .cons ?_ .nil⟩
    dsimp only [Edit.Leads]
    rw [List.length_nil] at *
    omega
  split
  · next noOld =>
    rw [List.isEmpty_iff] at noOld
    subst noOld
    refine ⟨k, .cons ?_ .nil⟩
    dsimp only [Edit.Leads]
    rw [List.length_nil] at *
    omega
  split
  · next x y found =>
    obtain ⟨shortOld, shortNew⟩ := split?_within found
    exact bridges.halves shortOld shortNew oldAt newAt fits
  · exact ⟨k, along_replaced (Nat.le_add_right _ _) fits⟩

theorem scriptFrom_bridges (fuel : Nat) : Bridges old new (scriptFrom fuel) := by
  induction fuel with
  | zero =>
    intro oldStart newStart k oldPart newPart oldAt newAt fits
    exact ⟨k, along_replaced (Nat.le_refl _) fits⟩
  | succ fuel ih =>
    intro oldStart newStart k oldPart newPart oldAt newAt fits
    obtain ⟨lead, trail, oldCore, newCore, scripted, leading, oldCored, newCored, trailing, oldEnd, newEnd⟩ :=
      scriptFrom_succ fuel oldAt newAt
    have third := along_kept trailing k
    rw [oldEnd, newEnd] at third
    obtain ⟨ahead, second⟩ := coreFrom_bridges ih oldCored newCored (third.fits fits)
    rw [scripted]
    exact ⟨_, along_append_iff.mpr ⟨_, along_append_iff.mpr ⟨_, along_kept leading ahead, second⟩, third⟩⟩

/-- A script leads from the starts of both lists to their ends. -/
theorem script_leads (old new : List Text) :
    ∃ ahead, Along (Edit.Leads old new) ⟨0, 0, ahead⟩ (script old new) ⟨old.length, new.length, 0⟩ := by
  have leads := scriptFrom_bridges (old.length + new.length + 1) (At.whole old) (At.whole new) (k := 0)
    ⟨by simp, by simp⟩
  simpa only [Nat.zero_add, script] using leads

end TextMigration.LineDiff
