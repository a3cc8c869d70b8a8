import TextMigration.Patch
import TextMigration.Store.Memory

/-!
The store in memory. A save puts a text at a path, under all of the path's spellings, counts one up and does
nothing else (`save_saved`). Patching a document then either finds none and does nothing, or runs the rules on
the text that is there and saves what they give where the mode asks for it.
-/

namespace TextMigration

namespace MemoryStore

/-- The store after a save differs from the one before in what is at the path, and in the count. -/
structure Saved (before : MemoryStore) (path : Path) (text : Text) (after : MemoryStore) : Prop where
  here : ∀ spelling : Path, spelling.same path = true → after.get? spelling = some text
  elsewhere : ∀ other : Path, other.same path = false → after.get? other = before.get? other
  counted : after.saves = before.saves + 1

theorem lookup_others {κ ν : Type} [BEq κ] [LawfulBEq κ] [DecidableEq κ] {key other : κ}
    (unlike : other ≠ key) (known : List (κ × ν)) :
    (known.filter fun entry => entry.1 ≠ key).lookup other = known.lookup other := by
  induction known with
  | nil => rfl
  | cons entry known ih =>
    by_cases same : entry.1 = key
    · have missed : (other == entry.1) = false := by simpa [same] using unlike
      rw [List.filter_cons_of_neg (by simp [same]), ih, List.lookup_cons, missed]
    · rw [List.filter_cons_of_pos (by simp [same]), List.lookup_cons, List.lookup_cons, ih]

theorem save_saved (store : MemoryStore) (path : Path) (text : Text) :
    Saved store path text (store.save path text) where
  here spelling same := by
    have agree : spelling.components = path.components := by simpa [Path.same] using same
    simp [get?, save, withDocument, agree]
  elsewhere other unlike := by
    have differ : other.components ≠ path.components := by simpa [Path.same] using unlike
    have missed : (other.components == path.components) = false := by simpa using differ
    simp only [get?, save, withDocument, List.lookup_cons, missed]
    exact lookup_others differ store.documents
  counted := rfl

end MemoryStore

theorem WriteMode.writes_iff {mode : WriteMode} {report : Report} : mode.writes report = true ↔
    report.changed = true ∧ (mode = .always ∨ mode = .onSuccess ∧ report.isSuccess = true) := by
  cases mode <;> simp [writes]

namespace RuleSet

variable {store : MemoryStore} {path : Path} {document : Text}

theorem patch_of_absent (set : RuleSet) (mode : WriteMode) (absent : store.get? path = none) :
    set.patch mode store path = (store, .error (.notFound path)) := by
  simp [patch, Store.load, MemoryStore.load, absent]

theorem patch_of_found (set : RuleSet) (mode : WriteMode) (found : store.get? path = some document) :
    set.patch mode store path =
      let (output, report) := set.run document
      if mode.writes report then (store.save path output, .ok ⟨document, output, report, true⟩)
      else (store, .ok ⟨document, output, report, false⟩) := by
  simp [patch, Store.load, Store.save, MemoryStore.load, found]

end RuleSet

end TextMigration
