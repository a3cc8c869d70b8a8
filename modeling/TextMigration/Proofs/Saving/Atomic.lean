import TextMigration.Proofs.Saving.Beside
import TextMigration.Proofs.Text.Encoding
import TextMigration.Store.Disk

/-!
A save is all or nothing. The new file has a place that nothing on the disk has, so taking it away gives back
exactly the disk that was there (`remove_put_fresh`), and nothing that a path leads to hangs on it
(`targets_put_fresh_iff`). So a save either puts the bytes at the target and nothing else, or is refused and leaves
the disk as it was (`save_eq`); which of the two it is depends on the refusals and the path alone.
-/

namespace TextMigration.Disk

variable {disk : Disk} {refusals : Refusals} {path : Path} {place directory target : Place} {front name text : Text}
  {bytes : List UInt8}

theorem length_le_longest {known : Place × Entry} (inside : known ∈ disk.entries) (named : name ∈ known.1) :
    name.length ≤ disk.longest := by
  have measured : name.length ∈ (disk.entries.flatMap Prod.fst).map List.length :=
    List.mem_map_of_mem (List.mem_flatMap.mpr ⟨known, inside, named⟩)
  rw [longest]
  generalize (disk.entries.flatMap Prod.fst).map List.length = lengths at measured
  induction lengths with
  | nil => simp at measured
  | cons first lengths ih =>
    rw [List.foldr_cons]
    rcases List.mem_cons.mp measured with same | later
    · omega
    · have := ih later
      omega

def Fresh (disk : Disk) (place : Place) : Prop := place ≠ [] ∧ ∀ known ∈ disk.entries, known.1 ≠ place

theorem fresh_freshName (disk : Disk) (directory : Place) : disk.Fresh (directory ++ [disk.freshName]) := by
  refine ⟨by simp, ?_⟩
  rintro known inside same
  have short : disk.freshName.length ≤ disk.longest := length_le_longest inside (by simp [same])
  have long : disk.freshName.length = disk.longest + 4 := by simp [freshName]
  omega

theorem Fresh.at?_eq (fresh : disk.Fresh place) : disk.at? place = none := by
  rw [at?, if_neg (by simpa using fresh.1), List.lookup_eq_none_iff]
  intro known inside
  simpa using (fresh.2 known inside).symm

theorem remove_put_fresh (fresh : disk.Fresh place) (entry : Entry) : (disk.put place entry).remove place = disk := by
  have all : disk.entries.filter (fun known => known.1 ≠ place) = disk.entries :=
    List.filter_eq_self.mpr fun known inside => by simpa using fresh.2 known inside
  rw [remove, put, List.filter_cons_of_neg (by simp), List.filter_filter]
  simp only [Bool.and_self, all]

theorem targets_put_fresh_iff (fresh : disk.Fresh place) (bytes : List UInt8) :
    (disk.put place (.file bytes)).Targets path front name directory ↔ disk.Targets path front name directory := by
  have alike : Alike (disk.put place (.file bytes)) disk := put_alike fresh.1 (by simp [fresh.at?_eq]) bytes
  have start : (disk.put place (.file bytes)).start path = disk.start path := rfl
  constructor
  · rintro ⟨usable, ends, short, ⟨walked, here⟩, free⟩
    rw [start, alike.walk_eq_ok_iff] at walked
    exact ⟨usable, ends, short, ⟨walked, (alike _).mp here⟩, (not_congr (alike _)).mp free⟩
  · rintro ⟨usable, ends, short, ⟨walked, here⟩, free⟩
    rw [← start, ← alike.walk_eq_ok_iff] at walked
    exact ⟨usable, ends, short, ⟨walked, (alike _).mpr here⟩, (not_congr (alike _)).mpr free⟩

theorem allowed_eq_ok_iff {step : SaveStep} : allowed refusals step = .ok () ↔ refusals step = none := by
  rw [allowed]
  cases refusals step <;> simp

theorem put_put (disk : Disk) (place : Place) (old new : Entry) :
    (disk.put place old).put place new = disk.put place new := by
  simp only [put, List.filter_cons_of_neg, ne_eq, not_true_eq_false, decide_false, Bool.false_eq_true,
    not_false_eq_true, List.filter_filter, Bool.and_self]

theorem create_of_targets (targets : disk.Targets path front name directory) (free : refusals .create = none) :
    disk.create refusals path =
      .ok (directory ++ [disk.freshName], disk.put (directory ++ [disk.freshName]) (.file [])) := by
  simp [create, allowed_eq_ok_iff.mpr free, find_savingDirectory targets, bind, Except.bind, pure, Except.pure]

theorem fresh_of_create {created : Disk} (made : disk.create refusals path = .ok (place, created)) :
    refusals .create = none ∧ disk.Fresh place ∧ created = disk.put place (.file []) := by
  simp only [create, bind, Except.bind] at made
  split at made
  · contradiction
  next creates =>
  split at made
  · contradiction
  next found _ =>
  obtain ⟨directory, entry⟩ := found
  cases entry with
  | file bytes => simp [throw, throwThe, MonadExceptOf.throw] at made
  | directory =>
    obtain ⟨rfl, rfl⟩ : directory ++ [disk.freshName] = place ∧
        disk.put (directory ++ [disk.freshName]) (.file []) = created := by
      simpa [pure, Except.pure] using made
    exact ⟨allowed_eq_ok_iff.mp creates, fresh_freshName disk directory, rfl⟩

/-- What becomes of a disk when bytes are saved at a path: they are put at the target, or something is not granted and
nothing is changed. -/
inductive Saved (disk : Disk) (refusals : Refusals) (path : Path) (bytes : List UInt8) :
    Disk × Option Fault → Prop where
  | written {front name : Text} {directory : Place} (granted : ∀ step, refusals step = none)
    (targets : disk.Targets path front name directory) :
    Saved disk refusals path bytes (disk.put (directory ++ [name]) (.file bytes), none)
  | refused {fault : Fault}
    (reason : (∀ step, refusals step = none) → ∀ front name directory, ¬ disk.Targets path front name directory) :
    Saved disk refusals path bytes (disk, some fault)

theorem saved_save (disk : Disk) (refusals : Refusals) (path : Path) (bytes : List UInt8) :
    Saved disk refusals path bytes (disk.save refusals path bytes) := by
  have refused {step : SaveStep} {fault : Fault} (failed : allowed refusals step = .error fault) :
      Saved disk refusals path bytes (disk, some fault) := by
    refine .refused fun granted => ?_
    rw [allowed_eq_ok_iff.mpr (granted step)] at failed
    contradiction
  rw [save]
  cases made : disk.create refusals path with
  | error fault =>
    refine .refused fun granted front name directory targets => ?_
    rw [create_of_targets targets (granted .create)] at made
    contradiction
  | ok created =>
    obtain ⟨place, created⟩ := created
    obtain ⟨creates, fresh, rfl⟩ := fresh_of_create made
    simp only [put_put, remove_put_fresh fresh, rename, bind, Except.bind]
    cases writes : allowed refusals .write with
    | error fault => exact refused writes
    | ok =>
      cases syncs : allowed refusals .sync with
      | error fault => exact refused syncs
      | ok =>
        cases renames : allowed refusals .rename with
        | error fault => exact refused renames
        | ok =>
          dsimp only
          -- The new file is still there when the target is looked for.
          cases targeted : (disk.put place (.file bytes)).renameTarget path with
          | error fault =>
            refine .refused fun _ front name directory targets => ?_
            have found := renameTarget_eq_ok_iff.mpr
              ⟨front, name, directory, (targets_put_fresh_iff fresh bytes).mpr targets, rfl⟩
            rw [targeted] at found
            contradiction
          | ok target =>
            obtain ⟨front, name, directory, targets, rfl⟩ := renameTarget_eq_ok_iff.mp targeted
            refine .written ?_ ((targets_put_fresh_iff fresh bytes).mp targets)
            rintro (_ | _ | _ | _)
            · exact creates
            · exact allowed_eq_ok_iff.mp writes
            · exact allowed_eq_ok_iff.mp syncs
            · exact allowed_eq_ok_iff.mp renames

theorem load_eq_ok_iff : disk.load path = .ok text ↔ disk.read path = .ok text.encode := by
  rw [load]
  cases read : disk.read path with
  | error fault => cases fault <;> simp
  | ok bytes =>
    simp only [Except.ok.injEq, ← Text.decode_eq_ok_iff]
    cases Text.decode bytes <;> simp

theorem load_eq_notText_iff : (∃ broken, disk.load path = .error (.notText path broken)) ↔
    ∃ bytes, disk.read path = .ok bytes ∧ ∀ text, bytes ≠ Text.encode text := by
  rw [load]
  cases read : disk.read path with
  | error fault => cases fault <;> simp
  | ok bytes =>
    simp only [Except.ok.injEq, exists_eq_left', ← Text.decode_fails_iff]
    cases Text.decode bytes <;> simp

theorem read_of_find (found : disk.find path = .ok (place, .file bytes)) : disk.read path = .ok bytes := by
  simp [read, found, bind, Except.bind, pure, Except.pure]

theorem Targets.find_put (targets : disk.Targets path front name directory) (bytes : List UInt8) :
    (disk.put (directory ++ [name]) (.file bytes)).find path = .ok (directory ++ [name], .file bytes) := by
  have alike : Alike (disk.put (directory ++ [name]) (.file bytes)) disk := put_alike (by simp) targets.free bytes
  have start : (disk.put (directory ++ [name]) (.file bytes)).start path = disk.start path := rfl
  obtain ⟨walked, here⟩ := (lands_front_iff targets.ends.isFront).mp targets.lands
  have named := targets.ends.isName
  rw [find_eq_ok_iff, alike.walk_eq_ok_iff, start, targets.ends.pieces_eq, walk_concat_eq_ok_iff]
  refine ⟨targets.usable, ⟨directory, walked, step_eq_ok_iff.mpr ⟨here, ?_⟩⟩, at?_put_self disk (by simp) _⟩
  exact .down named.nonempty named.not_here named.not_up targets.short

/-- A disk on which the path has the text, and which is otherwise the one before: the same at every other place, and
for every path that leads to one. -/
structure Rewritten (before : Disk) (path : Path) (text : Text) (target : Place) (after : Disk) : Prop where
  loaded : after.load path = .ok text
  found : after.find path = .ok (target, .file text.encode)
  elsewhere : ∀ place, place ≠ target → after.at? place = before.at? place
  others : ∀ other place entry, place ≠ target →
    (after.find other = .ok (place, entry) ↔ before.find other = .ok (place, entry))

theorem Targets.rewritten (targets : disk.Targets path front name directory) (text : Text) :
    Rewritten disk path text (directory ++ [name]) (disk.put (directory ++ [name]) (.file text.encode)) where
  loaded := load_eq_ok_iff.mpr (read_of_find (targets.find_put text.encode))
  found := targets.find_put text.encode
  elsewhere _ unlike := at?_put_of_ne disk unlike _
  others _ _ _ unlike := find_put_iff (by simp) targets.free _ unlike

/-- A save that is granted every step and has a target puts the text there and changes nothing else. Any other save
fails as one that was not written, and the disk is the one that was there. What is loaded is the text that the bytes
of a file encode, and a file whose bytes encode none is no text. -/
theorem saveText_atomic (disk : Disk) (refusals : Refusals) (path : Path) (text : Text) :
    ((∃ front name directory, (∀ step, refusals step = none) ∧ disk.Targets path front name directory ∧
        disk.saveText refusals path text = (disk.put (directory ++ [name]) (.file text.encode), none) ∧
        Rewritten disk path text (directory ++ [name]) (disk.put (directory ++ [name]) (.file text.encode))) ∨
      ((∀ step, refusals step = none) → ∀ front name directory, ¬ disk.Targets path front name directory) ∧
        ∃ fault, disk.saveText refusals path text = (disk, some (.unwritten path fault))) ∧
    (∀ document : Text, disk.load path = .ok document ↔ disk.read path = .ok document.str.toByteArray.data.toList) ∧
    ((∃ broken, disk.load path = .error (.notText path broken)) ↔
      ∃ bytes, disk.read path = .ok bytes ∧ ∀ document : Text, bytes ≠ document.str.toByteArray.data.toList) := by
  refine ⟨?_, ?_, ?_⟩
  · have saved := saved_save disk refusals path text.encode
    rw [saveText]
    cases made : disk.save refusals path text.encode with
    | mk after failure =>
      rw [made] at saved
      cases saved with
      | written granted targets => exact .inl ⟨_, _, _, granted, targets, rfl, targets.rewritten text⟩
      | refused reason => exact .inr ⟨reason, _, rfl⟩
  · intro document
    rw [load_eq_ok_iff, Text.encode_eq_bytes]
  · simp only [load_eq_notText_iff, Text.encode_eq_bytes]

-- A bare file name is saved in the directory that relative paths start from.
example : saveText ⟨[], []⟩ noRefusals (.ofString "page") ['x'] = (⟨[(["page".toList], .file [120])], []⟩, none) := by
  decide

end TextMigration.Disk
