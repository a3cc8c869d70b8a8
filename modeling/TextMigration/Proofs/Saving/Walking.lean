import TextMigration.Disk.Basic
import TextMigration.Proofs.Storing.Memory

/-!
Where a path leads on a disk. A step is a move from a directory (`step_eq_ok_iff`), and a walk is its moves one
after the other. Only directories count on the way, so disks with the same directories lead a walk to the same
place (`Alike.walk_eq_ok_iff`). A file that is put where no directory is changes what is at its own place, and
nothing for a path that leads elsewhere (`find_put_iff`).
-/

namespace TextMigration.Disk

inductive Moves (place : Place) : Text → Place → Prop where
  | idle {piece : Text} (idle : piece = [] ∨ piece = ['.']) : Moves place piece place
  | up : Moves place Path.upName place.dropLast
  | down {name : Text} (nonempty : name ≠ []) (not_here : name ≠ ['.']) (not_up : name ≠ Path.upName)
    (short : Text.byteLength name ≤ longestName) : Moves place name (place ++ [name])

def Alike (one other : Disk) : Prop := ∀ place, one.at? place = some .directory ↔ other.at? place = some .directory

variable {disk one other : Disk} {path : Path} {place next goal target : Place} {piece : Text} {pieces rest : List Text}
  {entry : Entry} {bytes : List UInt8}

theorem step_eq_ok_iff :
    disk.step place piece = .ok next ↔ disk.at? place = some .directory ∧ Moves place piece next := by
  rw [step]
  cases disk.at? place with
  | none => simp
  | some entry =>
    cases entry with
    | file bytes => simp
    | directory =>
      simp only [true_and]
      constructor
      · intro made
        split at made
        · next idle =>
          obtain rfl : place = next := by simpa using made
          exact .idle idle
        · next busy =>
          obtain ⟨nonempty, not_here⟩ := not_or.mp busy
          split at made
          · next up =>
            obtain rfl : place.dropLast = next := by simpa using made
            exact up ▸ .up
          · next not_up =>
            split at made
            · simp at made
            · next short =>
              obtain rfl : place ++ [piece] = next := by simpa using made
              exact .down nonempty not_here not_up (Nat.not_lt.mp short)
      · intro moves
        cases moves with
        | idle idle => simp [idle]
        | up => simp [Path.upName]
        | down nonempty not_here not_up short => simp [nonempty, not_here, not_up, short]

theorem walk_nil_eq_ok_iff : disk.walk place [] = .ok goal ↔ place = goal := by
  simp [walk, pure, Except.pure]

theorem walk_cons_eq_ok_iff : disk.walk place (piece :: rest) = .ok goal ↔
    ∃ next, disk.step place piece = .ok next ∧ disk.walk next rest = .ok goal := by
  rw [walk, List.foldlM_cons]
  cases disk.step place piece <;> simp [walk, bind, Except.bind]

theorem walk_append_eq_ok_iff : disk.walk place (pieces ++ rest) = .ok goal ↔
    ∃ next, disk.walk place pieces = .ok next ∧ disk.walk next rest = .ok goal := by
  induction pieces generalizing place with
  | nil => simp [walk_nil_eq_ok_iff]
  | cons piece pieces ih =>
    simp only [List.cons_append, walk_cons_eq_ok_iff, ih]
    constructor
    · rintro ⟨first, made, next, walked, others⟩
      exact ⟨next, ⟨first, made, walked⟩, others⟩
    · rintro ⟨next, ⟨first, made, walked⟩, others⟩
      exact ⟨first, made, next, walked, others⟩

theorem walk_concat_eq_ok_iff : disk.walk place (pieces ++ [piece]) = .ok goal ↔
    ∃ next, disk.walk place pieces = .ok next ∧ disk.step next piece = .ok goal := by
  simp [walk_append_eq_ok_iff, walk_cons_eq_ok_iff, walk_nil_eq_ok_iff]

theorem find_eq_ok_iff : disk.find path = .ok (place, entry) ↔
    usable path = .ok () ∧ disk.walk (disk.start path) path.pieces = .ok place ∧ disk.at? place = some entry := by
  rw [find]
  cases usable path with
  | error fault => simp [bind, Except.bind]
  | ok =>
    cases disk.walk (disk.start path) path.pieces with
    | error fault => simp [bind, Except.bind]
    | ok found =>
      simp only [bind, Except.bind, true_and, Except.ok.injEq]
      cases present : disk.at? found with
      | none =>
        simp only [throw, throwThe, MonadExceptOf.throw, reduceCtorEq, false_iff, not_and]
        rintro rfl
        simp [present]
      | some known =>
        simp only [pure, Except.pure, Except.ok.injEq, Prod.mk.injEq]
        constructor
        · rintro ⟨rfl, rfl⟩
          exact ⟨rfl, present⟩
        · rintro ⟨rfl, same⟩
          exact ⟨rfl, Option.some.inj (present ▸ same)⟩

namespace Alike

theorem step_eq_ok_iff (alike : Alike one other) :
    one.step place piece = .ok next ↔ other.step place piece = .ok next := by
  rw [Disk.step_eq_ok_iff, Disk.step_eq_ok_iff, alike place]

theorem walk_eq_ok_iff (alike : Alike one other) :
    one.walk place pieces = .ok goal ↔ other.walk place pieces = .ok goal := by
  induction pieces generalizing place with
  | nil => rfl
  | cons piece rest ih => simp only [walk_cons_eq_ok_iff, alike.step_eq_ok_iff, ih]

end Alike

theorem at?_put_self (disk : Disk) (nonempty : place ≠ []) (entry : Entry) :
    (disk.put place entry).at? place = some entry := by
  simp [at?, put, nonempty]

theorem at?_put_of_ne (disk : Disk) (unlike : place ≠ target) (entry : Entry) :
    (disk.put target entry).at? place = disk.at? place := by
  have missed : (place == target) = false := by simpa using unlike
  simp only [at?, put, List.lookup_cons, missed]
  rw [MemoryStore.lookup_others unlike]

theorem put_alike (nonempty : target ≠ []) (free : disk.at? target ≠ some .directory) (bytes : List UInt8) :
    Alike (disk.put target (.file bytes)) disk := by
  intro place
  by_cases same : place = target
  · simp [same, at?_put_self disk nonempty, free]
  · rw [at?_put_of_ne disk same]

/-- A file that is put where no directory is changes nothing for paths that lead elsewhere. -/
theorem find_put_iff (nonempty : target ≠ []) (free : disk.at? target ≠ some .directory) (bytes : List UInt8)
    (unlike : place ≠ target) :
    (disk.put target (.file bytes)).find path = .ok (place, entry) ↔ disk.find path = .ok (place, entry) := by
  have start : (disk.put target (.file bytes)).start path = disk.start path := rfl
  rw [find_eq_ok_iff, find_eq_ok_iff, at?_put_of_ne disk unlike, start,
    (put_alike nonempty free bytes).walk_eq_ok_iff]

end TextMigration.Disk
