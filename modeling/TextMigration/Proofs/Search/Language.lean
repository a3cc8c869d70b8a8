import TextMigration.Proofs.Search.Extent

/-!
Programs that recognize a language: a match at a place is a piece of the language that begins there, and there
is one whenever there is such a piece. The first match of such a program is then the first piece of the
language in the text: the search finds nothing exactly when the text has none (`first?_eq_none_iff`), and no
piece lies before the one that it finds (`first?_recognized`). Of any program the search finds something exactly
when the match takes something at some place (`first?_isSome_iff`).
-/

namespace TextMigration.Pattern

variable {program : Array Instr} {language : Text → Prop}

/-- The matches of the program are the pieces of the language, none of which is empty. -/
structure Recognizes (program : Array Instr) (language : Text → Prop) : Prop where
  nonempty : ∀ piece, language piece → piece ≠ []
  sound : ∀ index before text found, matchAt program index before text = some found →
    ∃ piece rest, language piece ∧ text = piece ++ rest ∧ found.stop = index + piece.length
  complete : ∀ index before piece rest, language piece →
    (matchAt program index before (piece ++ rest)).isSome = true

namespace Recognizes

variable {index : Nat} {before : Option Char} {text : Text}

theorem byPlace_eq_none (recognizes : Recognizes program language)
    (nothing : byPlace program index before text = none) :
    ∀ piece, language piece → ¬ piece <:+: text := by
  induction text generalizing index before with
  | nil =>
    intro piece member inside
    exact recognizes.nonempty piece member (List.infix_nil.mp inside)
  | cons c rest ih =>
    rw [byPlace] at nothing
    intro piece member inside
    have later : byPlace program (index + 1) (some c) rest = none := by
      split at nothing
      · exact nothing
      · split at nothing
        · simp at nothing
        · exact nothing
    rcases List.infix_cons_iff.mp inside with ⟨tail, begins⟩ | within
    · have found := recognizes.complete index before piece tail member
      rw [begins] at found
      obtain ⟨outcome, here⟩ := Option.isSome_iff_exists.mp found
      obtain ⟨other, _, spoken, _, stop⟩ := recognizes.sound _ _ _ _ here
      have start := matchAt_start here
      have positive := List.length_pos_iff.mpr (recognizes.nonempty other spoken)
      rw [here] at nothing
      simp only [if_pos (show outcome.start < outcome.stop by omega)] at nothing
      simp at nothing
    · exact ih later piece member within

theorem byPlace_eq_some (recognizes : Recognizes program language) {found : Outcome}
    (result : byPlace program index before text = some found) :
    ∃ gap piece rest, text = gap ++ piece ++ rest ∧ language piece ∧ found.start = index + gap.length ∧
      found.stop = found.start + piece.length ∧
      ∀ lead other tail, language other → text = lead ++ other ++ tail → gap.length ≤ lead.length := by
  induction text generalizing index before with
  | nil => simp [byPlace] at result
  | cons c rest ih =>
    rw [byPlace] at result
    have further (nothing : matchAt program index before (c :: rest) = none)
        (later : byPlace program (index + 1) (some c) rest = some found) :
        ∃ gap piece tail, c :: rest = gap ++ piece ++ tail ∧ language piece ∧
          found.start = index + gap.length ∧ found.stop = found.start + piece.length ∧
          ∀ lead other tail, language other → c :: rest = lead ++ other ++ tail →
            gap.length ≤ lead.length := by
      obtain ⟨gap, piece, tail, pieces, member, start, stop, earliest⟩ := ih later
      refine ⟨c :: gap, piece, tail, by rw [pieces]; rfl, member, ?_, stop, ?_⟩
      · rw [start, List.length_cons]
        omega
      · intro lead other behind spoken same
        cases lead with
        | nil =>
          have some := recognizes.complete index before other behind spoken
          rw [List.nil_append] at same
          rw [← same, nothing] at some
          simp at some
        | cons d lead =>
          simp only [List.cons_append, List.cons.injEq] at same
          have bound := earliest lead other behind spoken same.2
          simp only [List.length_cons]
          omega
    cases here : matchAt program index before (c :: rest) with
    | none =>
      rw [here] at result
      exact further here result
    | some outcome =>
      rw [here] at result
      obtain ⟨piece, tail, member, pieces, stop⟩ := recognizes.sound _ _ _ _ here
      have start := matchAt_start here
      have positive := List.length_pos_iff.mpr (recognizes.nonempty piece member)
      simp only [if_pos (show outcome.start < outcome.stop by omega), Option.some.injEq] at result
      refine ⟨[], piece, tail, pieces, member, ?_, ?_, fun _ _ _ _ _ => Nat.zero_le _⟩
      · rw [← result, start]
        rfl
      · rw [← result, stop, start]

end Recognizes

theorem firstMatch_eq (program : Array Instr) (before : Option Char) (text : Text) :
    firstMatch program before text =
      (byPlace program 0 before text).map fun found =>
        (text.take found.start, found, text.drop found.stop) := by
  rw [firstMatch, searchOn_eq_byPlace, byPlaceAfter]

variable {pattern : Pattern} {before : Option Char} {text : Text}

section Anywhere

variable {index : Nat}

def TakesAt (program : Array Instr) (index : Nat) (before : Option Char) (text : Text) : Prop :=
  ∃ found, matchAt program index before text = some found ∧ found.start < found.stop

def TakesIn (pattern : Pattern) (text : Text) : Prop :=
  ∃ lead rest, text = lead ++ rest ∧ TakesAt pattern.program lead.length lead.getLast? rest

theorem byPlace_isSome_iff : (byPlace program index before text).isSome = true ↔
    ∃ lead rest, text = lead ++ rest ∧
      TakesAt program (index + lead.length) (lead.getLast?.or before) rest := by
  induction text generalizing index before with
  | nil =>
    constructor
    · simp [byPlace]
    · rintro ⟨lead, rest, empty, found, here, takes⟩
      obtain ⟨rfl, rfl⟩ := List.append_eq_nil_iff.mp empty.symm
      have start := matchAt_start here
      have stop := matchAt_nil_stop here
      omega
  | cons c text ih =>
    have next (lead : Text) : index + 1 + lead.length = index + (c :: lead).length ∧
        lead.getLast?.or (some c) = (c :: lead).getLast?.or before := by
      rw [List.getLast?_cons, List.length_cons]
      cases lead.getLast? <;> exact ⟨by omega, rfl⟩
    have here : (byPlace program index before (c :: text)).isSome = true ↔
        TakesAt program index before (c :: text) ∨ (byPlace program (index + 1) (some c) text).isSome = true := by
      rw [byPlace]
      cases result : matchAt program index before (c :: text) with
      | none => simp [TakesAt, result]
      | some found => by_cases takes : found.start < found.stop <;> simp [TakesAt, result, takes]
    rw [here, ih]
    constructor
    · rintro (takes | ⟨lead, rest, rfl, takes⟩)
      · exact ⟨[], c :: text, rfl, takes⟩
      · rw [(next lead).1, (next lead).2] at takes
        exact ⟨c :: lead, rest, rfl, takes⟩
    · rintro ⟨lead, rest, same, takes⟩
      cases lead with
      | nil =>
        rw [List.nil_append] at same
        exact Or.inl (same ▸ takes)
      | cons d lead =>
        obtain ⟨rfl, behind⟩ := List.cons.inj same
        rw [← (next lead).1, ← (next lead).2] at takes
        exact Or.inr ⟨lead, rest, behind, takes⟩

theorem first?_isSome_iff : (pattern.first? none text).isSome = true ↔ pattern.TakesIn text := by
  rw [first?, firstMatch_eq, Option.map_map, Option.isSome_map, byPlace_isSome_iff]
  simp only [Nat.zero_add, Option.or_none, TakesIn]

end Anywhere

theorem first?_eq_none_iff (recognizes : Recognizes pattern.program language) :
    pattern.first? before text = none ↔ ∀ piece, language piece → ¬ piece <:+: text := by
  rw [first?, firstMatch_eq, Option.map_map, Option.map_eq_none_iff]
  constructor
  · exact recognizes.byPlace_eq_none
  · intro absent
    rw [Option.eq_none_iff_forall_not_mem]
    intro found result
    obtain ⟨gap, piece, rest, pieces, member, _⟩ := recognizes.byPlace_eq_some result
    exact absent piece member ⟨gap, rest, pieces.symm⟩

/-- What is found is a piece of the language, and there is none in the gap before it. -/
theorem first?_recognized (recognizes : Recognizes pattern.program language) {gap rest : Text} {found : Match}
    (result : pattern.first? before text = some (gap, found, rest)) :
    language found.text ∧ ∀ piece, language piece → ¬ piece <:+: gap := by
  rw [first?, firstMatch_eq, Option.map_map] at result
  obtain ⟨outcome, here, made⟩ := Option.map_eq_some_iff.mp result
  simp only [Function.comp_apply, Prod.mk.injEq] at made
  obtain ⟨lead, piece, tail, pieces, member, start, stop, earliest⟩ := recognizes.byPlace_eq_some here
  obtain ⟨rfl, rfl, _⟩ := made
  rw [Nat.zero_add] at start
  have taken : outcome.stop - outcome.start = piece.length := by omega
  have gaps : text.take outcome.start = lead := by rw [pieces, start, List.append_assoc, List.take_left]
  constructor
  · rw [taken, pieces, start, List.append_assoc, List.drop_left, List.take_left]
    exact member
  · rintro other spoken ⟨front, back, inside⟩
    rw [gaps] at inside
    have early : text = front ++ other ++ (back ++ piece ++ tail) := by
      rw [pieces, ← inside]
      simp
    have bound := earliest front other _ spoken early
    have positive := List.length_pos_iff.mpr (recognizes.nonempty other spoken)
    rw [← inside] at bound
    simp only [List.length_append] at bound
    omega

end TextMigration.Pattern
