import TextMigration.Proofs.Checking.Accepted
import TextMigration.Proofs.Running.Fold
import TextMigration.Proofs.Storing.Memory

/-!
Telling a change by the digests. A report that tells of a change is right, but one that tells of none goes by
two digests that are equal. `changed_iff_differs_iff` says when that is right too: exactly when the digest
keeps the output apart from the document; and exactly then a patch leaves the output in the store. A run that
puts eight letters in the place of four shows that the digest does not always do so.
-/

namespace TextMigration.RuleSet

variable {set : RuleSet} {document : Text}

theorem changed_iff (set : RuleSet) (document : Text) :
    (set.run document).2.changed = true ↔ document.digest ≠ (set.run document).1.digest :=
  bne_iff_ne

theorem ne_of_changed (changed : (set.run document).2.changed = true) : (set.run document).1 ≠ document := by
  intro same
  rw [run_unchanged same] at changed
  simp at changed

def Collides (one two : Text) : Prop := one ≠ two ∧ one.digest = two.digest

instance (one two : Text) : Decidable (Collides one two) := inferInstanceAs (Decidable (_ ∧ _))

-- What is not told of is a change when the digests collide, and only then.
theorem unnoticed_iff : (set.run document).2.changed = false ∧ (set.run document).1 ≠ document ↔
    Collides document (set.run document).1 := by
  rw [← Bool.not_eq_true, changed_iff, not_not]
  constructor
  · rintro ⟨same, differs⟩
    exact ⟨differs.symm, same⟩
  · rintro ⟨differs, same⟩
    exact ⟨same, differs.symm⟩

theorem noticed_iff : ((set.run document).2.changed = true ↔ (set.run document).1 ≠ document) ↔
    ¬ Collides document (set.run document).1 := by
  rw [← unnoticed_iff]
  constructor
  · rintro told ⟨quiet, differs⟩
    rw [told.mpr differs] at quiet
    simp at quiet
  · intro noticed
    refine ⟨ne_of_changed, fun differs => ?_⟩
    by_contra quiet
    exact noticed ⟨Bool.not_eq_true _ ▸ quiet, differs⟩

-- Without a change to tell of, the store keeps the document.
theorem patch_leaves_iff {store : MemoryStore} {path : Path} (found : store.get? path = some document) :
    (set.patch .always store path).1.get? path = some (set.run document).1 ↔
      (set.run document).2.changed = true ∨ (set.run document).1 = document := by
  rw [patch_of_found set .always found]
  by_cases changed : (set.run document).2.changed = true
  · have writes : WriteMode.always.writes (set.run document).2 = true :=
      WriteMode.writes_iff.mpr ⟨changed, Or.inl rfl⟩
    have same : path.same path = true := beq_self_eq_true path.components
    have saved := (MemoryStore.save_saved store path (set.run document).1).here path same
    simp [writes, saved, changed]
  · have idle : ¬ WriteMode.always.writes (set.run document).2 = true :=
      fun writes => changed (WriteMode.writes_iff.mp writes).1
    simp [idle, found, changed, eq_comm]

/-- A report tells of a change exactly when there is one, unless the document and what becomes of it have the
same digest; and unless they do, patching leaves in the store what the run gives. -/
theorem changed_iff_differs_iff (set : RuleSet) (document : Text) :
    let output := (set.run document).1
    let report := (set.run document).2
    (report.changed = true → output ≠ document) ∧
      ((report.changed = true ↔ output ≠ document) ↔ ¬ Collides document output) ∧
      ∀ (store : MemoryStore) (path : Path), store.get? path = some document →
        ((set.patch .always store path).1.get? path = some output ↔ ¬ Collides document output) := by
  intro output report
  refine ⟨ne_of_changed, noticed_iff, ?_⟩
  intro store path found
  rw [patch_leaves_iff found, ← unnoticed_iff, not_and_or, Bool.not_eq_false, not_not]

def recode (word letters : Text) : RuleSet :=
  ⟨['r'], none, [⟨['w'], .exact word, .text letters, .all, .replace, none, true⟩], []⟩

theorem changed_told_of_word :
    let set := recode ['a'] ['b']
    let store : MemoryStore := ⟨[([.name ['p']], ['a'])], 0⟩
    (set.run ['a']).2.changed = true ∧ ¬ Collides ['a'] (set.run ['a']).1 ∧
      (set.patch .always store ⟨['p']⟩).1.get? ⟨['p']⟩ = some ['b'] := by
  intro set store
  have apart : ¬ Collides ['a'] (set.run ['a']).1 := by decide +kernel
  obtain ⟨_, told, left⟩ := changed_iff_differs_iff set ['a']
  exact ⟨(told.mpr apart).mpr (by decide), apart, (left store ⟨['p']⟩ (by decide)).mpr apart⟩

/-- A change of the whole document that no report tells of. -/
theorem recode_unnoticed :
    ¬ ∀ (set : RuleSet) (document : Text), build set.name set.rules set.expectations = .ok set →
      ((set.run document).2.changed = true ↔ (set.run document).1 ≠ document) := by
  intro told
  let set := recode ['x', 'f', 'j', 'y'] ['p', 'E', 'y', 't', 'e', '5', 'S', 'N']
  have collides : Collides ['x', 'f', 'j', 'y'] (set.run ['x', 'f', 'j', 'y']).1 := by decide +kernel
  obtain ⟨quiet, differs⟩ := unnoticed_iff.mpr collides
  have noticed := (told set ['x', 'f', 'j', 'y'] rfl).mpr differs
  rw [quiet] at noticed
  simp at noticed

end TextMigration.RuleSet
