import TextMigration.Disk.Save
import TextMigration.Proofs.Paths.Names
import TextMigration.Proofs.Saving.Walking
import TextMigration.Proofs.Text.Places

/-!
The directory of a file that is saved. A path is the path of its directory and a name; what the program writes down
for the directory is another text, without what is idle at its end and with a dot for nothing at all, and leads to
the same place (`find_savingDirectory`). A rename has a target just when the path ends with a name and its
directory is there, with no directory of that name in it (`renameTarget_eq_ok_iff`).
-/

namespace TextMigration.Disk

def Lands (disk : Disk) (place : Place) (text : Text) (directory : Place) : Prop :=
  disk.walk place (Path.split text) = .ok directory ∧ disk.at? directory = some .directory

/-- A file can be put at the path: it ends with a name, its directory is there, and no directory has the name. -/
structure Targets (disk : Disk) (path : Path) (front name : Text) (directory : Place) : Prop where
  usable : usable path = .ok ()
  ends : path.EndsWith front name
  short : Text.byteLength name ≤ longestName
  lands : disk.Lands (disk.start path) front directory
  free : disk.at? (directory ++ [name]) ≠ some .directory

variable {disk : Disk} {path : Path} {place directory target : Place} {front name piece : Text} {pieces : List Text}

theorem idle_step_iff (idle : piece = [] ∨ piece = ['.']) :
    disk.walk place (pieces ++ [piece]) = .ok directory ∧ disk.at? directory = some .directory ↔
      disk.walk place pieces = .ok directory ∧ disk.at? directory = some .directory := by
  simp only [walk_concat_eq_ok_iff, step_eq_ok_iff]
  constructor
  · rintro ⟨⟨next, walked, _, moves⟩, here⟩
    cases moves with
    | idle _ => exact ⟨walked, here⟩
    | up => simp [Path.upName] at idle
    | down nonempty not_here => simp [nonempty, not_here] at idle
  · rintro ⟨walked, here⟩
    exact ⟨⟨directory, walked, here, .idle idle⟩, here⟩

/-- What is idle at the end of a text does not count where it leads. -/
theorem lands_dropIdle (text : Text) :
    disk.Lands place (Path.dropIdle text).reverse directory ↔ disk.Lands place text.reverse directory := by
  fun_induction Path.dropIdle text with
  | case1 c rest ih =>
    have whole : Path.split ('/' :: c :: rest).reverse = Path.split (c :: rest).reverse ++ [[]] := by
      rw [List.reverse_cons, Path.split_append_slash]
      rfl
    rw [ih, Lands, Lands, whole, idle_step_iff (.inl rfl)]
  | case2 rest ih =>
    have whole : Path.split ('.' :: '/' :: rest).reverse = Path.split rest.reverse ++ [['.']] := by
      rw [List.reverse_cons, List.reverse_cons, List.append_assoc, List.singleton_append, Path.split_append_slash]
      rfl
    have other : Path.split ('/' :: rest).reverse = Path.split rest.reverse ++ [[]] := by
      rw [List.reverse_cons, Path.split_append_slash]
      rfl
    rw [ih, Lands, Lands, whole, other, idle_step_iff (.inl rfl), idle_step_iff (.inr rfl)]
  | case3 text _ _ => rfl

theorem lands_front_iff (isFront : Path.IsFront front) : disk.Lands place front directory ↔
    disk.walk place (Path.split front).dropLast = .ok directory ∧ disk.at? directory = some .directory := by
  rw [← idle_step_iff (.inl rfl), Lands]
  cases isFront with
  | nothing => rfl
  | slashed above =>
    have whole : Path.split (above ++ ['/']) = Path.split above ++ [[]] := Path.split_append_slash above []
    rw [whole, List.dropLast_concat]

theorem usable_eq_ok_iff : usable path = .ok () ↔
    path.text.contains ['\x00'] = false ∧ path.text ≠ [] ∧ Text.byteLength path.text ≤ longestPath := by
  rw [usable]
  split
  · next nul => simp [nul]
  · next clean =>
    split
    · next empty => simp [List.isEmpty_iff.mp empty]
    · next nonempty =>
      split
      · next long => simp [Nat.not_le.mpr long]
      · next short => simp_all

theorem renameTarget_eq_ok_iff : disk.renameTarget path = .ok target ↔
    ∃ front name directory, disk.Targets path front name directory ∧ target = directory ++ [name] := by
  constructor
  · intro made
    -- One split for each way to fail: what is left is the one path through all of them.
    simp only [renameTarget, bind, Except.bind] at made
    split at made
    · contradiction
    next _ usable =>
    split at made
    · contradiction
    next directory walked =>
    split at made
    · contradiction
    next name last =>
    split at made
    · contradiction
    next stayed =>
    repeat' split at made
    all_goals try contradiction
    next not_special short unclosed free =>
    obtain rfl : directory ++ [name] = target := by simpa [pure, Except.pure] using made
    obtain ⟨front, other, whole, isFront, nonempty, unslashed⟩ :=
      Path.exists_name_of_open (usable_eq_ok_iff.mp usable).2.1 unclosed
    have parts : path.pieces = (Path.split front).dropLast ++ [other] := by
      rw [Path.pieces, whole, Path.split_front isFront unslashed]
    obtain rfl : other = name := by simpa [parts, nonempty] using last
    obtain ⟨not_here, not_up⟩ := not_or.mp not_special
    refine ⟨front, other, directory, ⟨usable, ?_, Nat.not_lt.mp short, ?_, free⟩, rfl⟩
    · exact ⟨whole, isFront, nonempty, unslashed, not_here, not_up⟩
    · rw [lands_front_iff isFront]
      exact ⟨by simpa [parts, nonempty] using walked, (step_eq_ok_iff.mp stayed).1⟩
  · rintro ⟨front, name, directory, targets, rfl⟩
    have nonempty : name.isEmpty = false := by simpa using targets.ends.isName.nonempty
    have unclosed := targets.ends.getLast?_ne
    have settled := (lands_front_iff targets.ends.isFront).mp targets.lands
    have stays : disk.step directory [] = .ok directory := step_eq_ok_iff.mpr ⟨settled.2, .idle (.inl rfl)⟩
    simp [renameTarget, targets.usable, bind, Except.bind, targets.ends.pieces_eq, nonempty, settled.1, stays,
      targets.ends.isName.not_here, targets.ends.isName.not_up, Nat.not_lt.mpr targets.short, unclosed, targets.free,
      pure, Except.pure]

theorem usable_of_begins (other : Path) (usable : usable path = .ok ()) (nonempty : other.text ≠ [])
    (within : other.text <+: path.text) : Disk.usable other = .ok () := by
  obtain ⟨clean, _, short⟩ := usable_eq_ok_iff.mp usable
  refine usable_eq_ok_iff.mpr ⟨?_, nonempty, ?_⟩
  · rw [← Bool.not_eq_true, Text.contains_iff_infix] at clean ⊢
    exact fun inside => clean (inside.trans within.isInfix)
  · exact Nat.le_trans (Text.byteLength_le_of_prefix within) short

theorem start_of_begins (other : Path) (nonempty : other.text ≠ []) (within : other.text <+: path.text) :
    disk.start other = disk.start path := by
  obtain ⟨rest, whole⟩ := within
  have first : path.text.head? = other.text.head? := by
    rw [← whole, List.head?_append, List.head?_eq_some_head nonempty, Option.some_or]
  rw [start, start, Path.isAbsolute, Path.isAbsolute, first]

theorem find_savingDirectory (targets : disk.Targets path front name directory) :
    disk.find (savingDirectory path) = .ok (directory, .directory) := by
  have parent := targets.ends.parent?_eq
  rw [find_eq_ok_iff]
  by_cases bare : front = []
  · have here : savingDirectory path = .ofString "." := by
      rw [savingDirectory, parent, bare]
      rfl
    have relative : path.isAbsolute = false := by
      rw [Path.isAbsolute, targets.ends.text_eq, bare, List.nil_append, decide_eq_false_iff_not]
      exact fun first => targets.ends.isName.unslashed (List.mem_of_head? first)
    have current : disk.start path = disk.start (.ofString ".") := by
      rw [start, relative]
      rfl
    have lands := (lands_front_iff targets.ends.isFront).mp targets.lands
    rw [bare, current] at lands
    rw [here]
    exact ⟨rfl, (idle_step_iff (.inr rfl)).mpr lands⟩
  · have nonempty : (Path.dropIdle front.reverse).reverse ≠ [] := by
      simpa [Path.dropIdle_eq_nil_iff] using bare
    have above : savingDirectory path = ⟨(Path.dropIdle front.reverse).reverse⟩ := by
      rw [savingDirectory, parent]
      exact if_neg (by simpa using nonempty)
    have within : (Path.dropIdle front.reverse).reverse <+: path.text := by
      have shorter := List.reverse_prefix.mpr (Path.dropIdle_suffix front.reverse)
      rw [List.reverse_reverse] at shorter
      exact targets.ends.text_eq ▸ shorter.trans (List.prefix_append front name)
    have lands := targets.lands
    rw [← front.reverse_reverse, ← lands_dropIdle] at lands
    generalize (Path.dropIdle front.reverse).reverse = rest at above nonempty within lands
    rw [above, start_of_begins ⟨rest⟩ nonempty within]
    exact ⟨usable_of_begins ⟨rest⟩ targets.usable nonempty within, lands.1, lands.2⟩

end TextMigration.Disk
