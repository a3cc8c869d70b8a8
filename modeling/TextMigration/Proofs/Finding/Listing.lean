import Mathlib.Data.List.Nodup
import TextMigration.Disk.Basic
import TextMigration.Proofs.Paths.Names

/-!
What a disk lists. A listing of a directory has the files directly inside it, each once (`mem_filesIn_iff`,
`nodup_filesIn`), in whatever order the entries stand; another order leads every path to the same place and
gives the same names (`Relists.find_eq`, `Relists.filesIn_perm`).
-/

namespace TextMigration

namespace Disk

/-- A disk as there can be one: no place has two entries, and places are made of names. -/
structure Sound (disk : Disk) : Prop where
  distinct : (disk.entries.map Prod.fst).Nodup
  named : ∀ known ∈ disk.entries, ∀ name ∈ known.1, Path.IsName name

def HasFile (disk : Disk) (directory : Path) (name : Text) : Prop :=
  ∃ place bytes, disk.find directory = .ok (place, .directory) ∧ disk.at? (place ++ [name]) = some (.file bytes)

/-- The same disk, listed in another order. -/
structure Relists (other disk : Disk) : Prop where
  entries : other.entries.Perm disk.entries
  current : other.current = disk.current

theorem lookup_eq_some_iff_mem {κ ν : Type} [BEq κ] [LawfulBEq κ] {known : List (κ × ν)} {key : κ} {value : ν}
    (distinct : (known.map Prod.fst).Nodup) : known.lookup key = some value ↔ (key, value) ∈ known := by
  induction known with
  | nil => simp
  | cons first known ih =>
    obtain ⟨fresh, others⟩ := List.nodup_cons.mp distinct
    rcases eq_or_ne key first.1 with same | unlike
    · have absent : (key, value) ∉ known := fun inside => fresh (List.mem_map.mpr ⟨_, inside, same⟩)
      rw [List.lookup_cons, List.mem_cons, or_iff_left absent, Prod.ext_iff]
      simp [same, eq_comm]
    · have missed : (key == first.1) = false := by simpa using unlike
      rw [List.lookup_cons, missed, List.mem_cons, Prod.ext_iff]
      simp [unlike, ih others]

variable {disk other : Disk} {directory place : Place} {path : Path} {name : Text} {entry : Entry}

theorem at?_child (disk : Disk) (directory : Place) (name : Text) :
    disk.at? (directory ++ [name]) = disk.entries.lookup (directory ++ [name]) := by
  simp [at?]

theorem namesIn_sublist (disk : Disk) (directory : Place) :
    ((disk.namesIn directory).map fun (name, entry) => (directory ++ [name], entry)).Sublist disk.entries := by
  rw [namesIn]
  induction disk.entries with
  | nil => simp
  | cons known entries ih =>
    obtain ⟨place, entry⟩ := known
    rw [List.filterMap_cons]
    cases last : place.getLast? with
    | none => simpa [last] using ih.cons (place, entry)
    | some name =>
      by_cases above : place.dropLast = directory
      · have whole : directory ++ [name] = place := by
          rw [← above, List.dropLast_append_getLast? name last]
        simpa [last, above, whole] using ih
      · simpa [last, above] using ih.cons (place, entry)

theorem mem_namesIn_iff : (name, entry) ∈ disk.namesIn directory ↔ (directory ++ [name], entry) ∈ disk.entries := by
  constructor
  · intro inside
    exact (namesIn_sublist disk directory).subset (List.mem_map_of_mem inside)
  · intro inside
    rw [namesIn, List.mem_filterMap]
    exact ⟨_, inside, by simp⟩

namespace Sound

theorem nodup_namesIn (sound : disk.Sound) (directory : Place) : ((disk.namesIn directory).map Prod.fst).Nodup := by
  have places := sound.distinct.sublist ((namesIn_sublist disk directory).map Prod.fst)
  rw [List.map_map] at places
  refine List.Nodup.of_map (fun name => directory ++ [name]) ?_
  rw [List.map_map]
  exact places

theorem at?_child_iff (sound : disk.Sound) :
    disk.at? (directory ++ [name]) = some entry ↔ (directory ++ [name], entry) ∈ disk.entries := by
  rw [at?_child, lookup_eq_some_iff_mem sound.distinct]

theorem isName_of_hasFile (sound : disk.Sound) (here : disk.HasFile path name) : Path.IsName name := by
  obtain ⟨place, bytes, _, child⟩ := here
  exact sound.named _ (sound.at?_child_iff.mp child) name (by simp)

theorem mem_filesIn_iff (sound : disk.Sound) : name ∈ disk.filesIn path ↔ disk.HasFile path name := by
  rw [filesIn]
  split
  · next place found =>
    simp only [HasFile, found, Except.ok.injEq, Prod.mk.injEq, and_true, List.mem_filterMap, Prod.exists]
    constructor
    · rintro ⟨other, entry, inside, made⟩
      cases entry with
      | file bytes =>
        obtain rfl : other = name := by simpa using made
        exact ⟨place, bytes, rfl, sound.at?_child_iff.mpr (mem_namesIn_iff.mp inside)⟩
      | directory => simp at made
    · rintro ⟨_, bytes, rfl, here⟩
      exact ⟨name, .file bytes, mem_namesIn_iff.mpr (sound.at?_child_iff.mp here), rfl⟩
  · next absent =>
    simp only [List.not_mem_nil, false_iff]
    rintro ⟨place, bytes, found, _⟩
    exact absent place found

theorem nodup_filesIn (sound : disk.Sound) (path : Path) : (disk.filesIn path).Nodup := by
  rw [filesIn]
  split
  · next place _ =>
    have names := List.pairwise_map.mp (sound.nodup_namesIn place)
    refine List.pairwise_filterMap.mpr (names.imp ?_)
    rintro ⟨one, kind⟩ ⟨other, also⟩ differ first here second there
    cases kind <;> cases also <;> simp_all
  · exact List.nodup_nil

end Sound

namespace Relists

theorem at?_eq (relists : other.Relists disk) (sound : disk.Sound) (place : Place) :
    other.at? place = disk.at? place := by
  have distinct : (other.entries.map Prod.fst).Nodup :=
    (relists.entries.map Prod.fst).nodup_iff.mpr sound.distinct
  have same : other.entries.lookup place = disk.entries.lookup place := by
    refine Option.ext fun entry => ?_
    rw [lookup_eq_some_iff_mem distinct, lookup_eq_some_iff_mem sound.distinct]
    exact relists.entries.mem_iff
  rw [at?, at?, same]

theorem find_eq (relists : other.Relists disk) (sound : disk.Sound) (path : Path) :
    other.find path = disk.find path := by
  have steps : other.step = disk.step := by
    funext place piece
    simp only [step, relists.at?_eq sound]
  simp only [find, walk, start, steps, relists.at?_eq sound, relists.current]

theorem filesIn_perm (relists : other.Relists disk) (sound : disk.Sound) (path : Path) :
    (other.filesIn path).Perm (disk.filesIn path) := by
  rw [filesIn, filesIn, relists.find_eq sound]
  split
  · exact (relists.entries.filterMap _).filterMap _
  · exact .rfl

end Relists

end Disk

end TextMigration
