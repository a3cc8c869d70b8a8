import TextMigration.Path

/-!
Paths that end with a name. Splitting at slashes loses nothing, so a path is what stands up to its last slash
and the name behind it (`exists_front`). Its file name, its stem, its extension and the path without the name
are read off these two parts, and a path that is joined with a name ends with that name.
-/

namespace TextMigration.Path

/-- A name on a disk: not empty, without a slash, and neither of the two that stand for directories. -/
structure IsName (name : Text) : Prop where
  nonempty : name ≠ []
  unslashed : '/' ∉ name
  not_here : name ≠ ['.']
  not_up : name ≠ upName

theorem isName_iff {name : Text} : IsName name ↔ name ≠ [] ∧ '/' ∉ name ∧ name ≠ ['.'] ∧ name ≠ upName :=
  ⟨fun ⟨nonempty, unslashed, not_here, not_up⟩ => ⟨nonempty, unslashed, not_here, not_up⟩,
    fun ⟨nonempty, unslashed, not_here, not_up⟩ => ⟨nonempty, unslashed, not_here, not_up⟩⟩

instance (name : Text) : Decidable (IsName name) := decidable_of_iff' _ isName_iff

inductive IsFront : Text → Prop where
  | nothing : IsFront []
  | slashed (above : Text) : IsFront (above ++ ['/'])

structure EndsWith (path : Path) (front name : Text) : Prop where
  text_eq : path.text = front ++ name
  isFront : IsFront front
  isName : IsName name

variable {path : Path} {text front name stem kind : Text}

theorem split_ne_nil (text : Text) : split text ≠ [] := by
  cases text with
  | nil => simp [split]
  | cons c text =>
    rw [split]
    split
    · simp
    · split <;> simp

theorem split_append_slash (front rest : Text) : split (front ++ '/' :: rest) = split front ++ split rest := by
  induction front with
  | nil => simp [split]
  | cons c front ih =>
    by_cases slash : c = '/'
    · simp [split, slash, ih]
    · cases parts : split front with
      | nil => exact absurd parts (split_ne_nil front)
      | cons piece others => simp [split, slash, ih, parts]

theorem split_of_unslashed (unslashed : '/' ∉ text) : split text = [text] := by
  induction text with
  | nil => rfl
  | cons c text ih =>
    simp only [List.mem_cons, not_or] at unslashed
    simp [split, Ne.symm unslashed.1, ih unslashed.2]

theorem exists_front (text : Text) : ∃ front name, text = front ++ name ∧ IsFront front ∧ '/' ∉ name := by
  induction text with
  | nil => exact ⟨[], [], rfl, .nothing, by simp⟩
  | cons c text ih =>
    obtain ⟨front, name, rfl, isFront, unslashed⟩ := ih
    cases isFront with
    | slashed above => exact ⟨c :: above ++ ['/'], name, rfl, .slashed _, unslashed⟩
    | nothing =>
      by_cases slash : c = '/'
      · exact ⟨['/'], name, by rw [slash]; rfl, .slashed [], unslashed⟩
      · refine ⟨[], c :: name, rfl, .nothing, ?_⟩
        simp [Ne.symm slash, unslashed]

theorem exists_name_of_open (nonempty : text ≠ []) (unclosed : text.getLast? ≠ some '/') :
    ∃ front name, text = front ++ name ∧ IsFront front ∧ name ≠ [] ∧ '/' ∉ name := by
  obtain ⟨front, name, rfl, isFront, unslashed⟩ := exists_front text
  refine ⟨front, name, rfl, isFront, ?_, unslashed⟩
  rintro rfl
  cases isFront with
  | nothing => exact nonempty rfl
  | slashed above => exact unclosed (by simp)

theorem split_front (isFront : IsFront front) (unslashed : '/' ∉ name) :
    split (front ++ name) = (split front).dropLast ++ [name] := by
  have single := split_of_unslashed unslashed
  cases isFront with
  | nothing => simpa [split] using single
  | slashed above =>
    have empty : split [] = [[]] := rfl
    rw [List.append_assoc, List.singleton_append, split_append_slash, split_append_slash, single, empty,
      List.dropLast_concat]

theorem EndsWith.pieces_eq (ends : path.EndsWith front name) : path.pieces = (split front).dropLast ++ [name] := by
  rw [Path.pieces, ends.text_eq, split_front ends.isFront ends.isName.unslashed]

theorem join_endsWith (directory : Path) (named : IsName name) :
    ∃ front, (directory.join ⟨name⟩).EndsWith front name := by
  have relative : isAbsolute ⟨name⟩ = false := by
    cases name with
    | nil => rfl
    | cons c name => simpa [isAbsolute] using fun slash : c = '/' => named.unslashed (by simp [slash])
  rw [join, relative]
  split
  · contradiction
  · split
    · next closed =>
      refine ⟨directory.text, rfl, ?_, named⟩
      rcases closed with empty | last
      · rw [List.isEmpty_iff.mp empty]
        exact .nothing
      · obtain ⟨above, same⟩ := List.getLast?_eq_some_iff.mp last
        rw [same]
        exact .slashed above
    · exact ⟨directory.text ++ ['/'], by simp, .slashed _, named⟩

-- A slash is idle before anything, a dot only before a slash.
theorem dropIdle_cons {c : Char} {rest : Text} (unslashed : c ≠ '/') (undotted : c = '.' → rest.head? ≠ some '/') :
    dropIdle (c :: rest) = c :: rest := by
  rw [dropIdle.eq_def]
  split
  · next same => exact absurd (List.cons.inj same).1 unslashed
  · next same =>
    obtain ⟨dot, slashed⟩ := List.cons.inj same
    exact absurd (by rw [slashed]; rfl) (undotted dot)
  · rfl

theorem dropIdle_suffix (text : Text) : dropIdle text <:+ text := by
  fun_induction dropIdle text with
  | case1 c rest ih => exact ih.trans (List.suffix_cons _ _)
  | case2 rest ih => exact ih.trans (List.suffix_cons _ _)
  | case3 text _ _ => exact List.suffix_rfl

theorem dropIdle_eq_nil_iff : dropIdle text = [] ↔ text = [] := by
  fun_induction dropIdle text with
  | case1 c rest ih => simp [ih]
  | case2 rest ih => simp [ih]
  | case3 text _ _ => rfl

theorem dropIdle_name (named : IsName name) (front : Text) :
    dropIdle (name.reverse ++ front) = name.reverse ++ front := by
  cases reversed : name.reverse with
  | nil => exact absurd (List.reverse_eq_nil_iff.mp reversed) named.nonempty
  | cons c others =>
    have unslashed : ∀ d ∈ c :: others, d ≠ '/' := by
      rintro d inside rfl
      exact named.unslashed (List.mem_reverse.mp (reversed ▸ inside))
    refine dropIdle_cons (unslashed c List.mem_cons_self) ?_
    rintro rfl
    cases others with
    | nil => exact absurd (List.reverse_eq_iff.mp reversed) named.not_here
    | cons d others => simpa using unslashed d (by simp)

namespace EndsWith

theorem getLast?_ne (ends : path.EndsWith front name) : path.text.getLast? ≠ some '/' := by
  rw [ends.text_eq, List.getLast?_append, List.getLast?_eq_some_getLast ends.isName.nonempty]
  intro last
  exact ends.isName.unslashed (Option.some.inj last ▸ List.getLast_mem ends.isName.nonempty)

theorem trimmed_text (ends : path.EndsWith front name) : path.trimmed.text = front ++ name := by
  rw [trimmed, ends.text_eq, List.reverse_append, dropIdle_name ends.isName]
  simp

theorem lastReversed_eq (ends : path.EndsWith front name) : path.lastReversed = name.reverse := by
  have plain : ∀ c ∈ name.reverse, (c != '/') = true := by
    intro c inside
    exact bne_iff_ne.mpr fun slash => ends.isName.unslashed (slash ▸ List.mem_reverse.mp inside)
  rw [lastReversed, ends.trimmed_text, List.reverse_append, List.takeWhile_append_of_pos plain]
  cases ends.isFront <;> simp

theorem fileName?_eq (ends : path.EndsWith front name) : path.fileName? = some name := by
  simp [fileName?, ends.lastReversed_eq, ends.isName.nonempty, ends.isName.not_here, ends.isName.not_up]

/-- The path without the name is its front, without what is idle at the end. -/
theorem parent?_eq (ends : path.EndsWith front name) : path.parent? = some ⟨(dropIdle front.reverse).reverse⟩ := by
  have plain : ∀ c ∈ name.reverse, (c != '/') = true := by
    intro c inside
    exact bne_iff_ne.mpr fun slash => ends.isName.unslashed (slash ▸ List.mem_reverse.mp inside)
  have some : front ++ name ≠ [] := by simp [ends.isName.nonempty]
  have unlike : front ++ name ≠ ['/'] := by
    intro slash
    exact ends.getLast?_ne (by rw [ends.text_eq, slash]; rfl)
  rw [parent?, ends.trimmed_text, if_neg (by simp [some, unlike]), List.reverse_append,
    List.dropWhile_append_of_pos plain]
  cases ends.isFront <;> simp

end EndsWith

theorem cutName_dotted (nonempty : stem ≠ []) (undotted : '.' ∉ kind) :
    cutName (stem ++ '.' :: kind) = (stem, some kind) := by
  have plain : ∀ c ∈ kind.reverse, (c != '.') = true := by
    intro c inside
    exact bne_iff_ne.mpr fun dot => undotted (dot ▸ List.mem_reverse.mp inside)
  have back : (stem ++ '.' :: kind).reverse = kind.reverse ++ '.' :: stem.reverse := by simp
  simp only [cutName, back, List.takeWhile_append_of_pos plain, List.dropWhile_append_of_pos plain]
  simp [nonempty]

/-- A name is cut at its last dot, unless that is its first character. -/
theorem cutName_eq_some_iff :
    cutName name = (stem, some kind) ↔ stem ≠ [] ∧ '.' ∉ kind ∧ name = stem ++ '.' :: kind := by
  constructor
  · intro cut
    have whole : name.reverse.takeWhile (· != '.') ++ name.reverse.dropWhile (· != '.') = name.reverse :=
      List.takeWhile_append_dropWhile
    have undotted : '.' ∉ name.reverse.takeWhile (· != '.') := fun inside => by
      simpa using List.all_eq_true.mp List.all_takeWhile '.' inside
    have dotted : ∀ d ∈ (name.reverse.dropWhile (· != '.')).head?, d = '.' := by
      intro d first
      have stops := List.head?_dropWhile_not (· != '.') name.reverse
      rw [Option.mem_def.mp first] at stops
      simpa using stops
    simp only [cutName] at cut
    generalize name.reverse.takeWhile (· != '.') = after at cut whole undotted
    generalize name.reverse.dropWhile (· != '.') = behind at cut whole dotted
    have same := congrArg List.reverse whole
    rw [List.reverse_reverse] at same
    match behind with
    | [] => simp at cut
    | d :: before =>
      have dot : d = '.' := dotted d rfl
      by_cases empty : before = []
      · simp [empty] at cut
      · obtain ⟨rfl, rfl⟩ : before.reverse = stem ∧ after.reverse = kind := by simpa [empty] using cut
        refine ⟨by simpa using empty, by simpa using undotted, ?_⟩
        rw [← same, dot]
        simp
  · rintro ⟨nonempty, undotted, rfl⟩
    exact cutName_dotted nonempty undotted

end TextMigration.Path
