import Mathlib.Data.List.TakeWhile
import TextMigration.Proofs.Search.Language
import TextMigration.Proofs.Search.Walk

/-!
Two words that stand apart, with filler between them, and the programs that look for them, as those of
normalizing patterns do. The second word does not begin with filler, so the filler can only be taken whole,
and the program recognizes the pieces that its code reads like (`TakesLoose.recognizes`).
-/

namespace TextMigration.Pattern

open Unicode (Ranges)

/-- Two words, and the characters that may stand between them. -/
structure Loose where
  front : Text
  filler : Ranges
  back : Text
deriving DecidableEq, Repr

namespace Loose

def Reads (loose : Loose) (piece : Text) : Prop :=
  ∃ run, run ≠ [] ∧ (∀ c ∈ run, loose.filler.has c.toNat = true) ∧ piece = loose.front ++ run ++ loose.back

def tight (loose : Loose) : Text := loose.front ++ loose.back

def stops (loose : Loose) : Bool := loose.back.head?.any fun c => !loose.filler.has c.toNat

variable {loose : Loose}

theorem exists_cons_of_stops (stops : loose.stops = true) :
    ∃ c more, loose.back = c :: more ∧ loose.filler.has c.toNat = false := by
  obtain ⟨c, first, outside⟩ := (Option.any_eq_true _ _).mp stops
  obtain ⟨more, same⟩ := List.head?_eq_some_iff.mp first
  exact ⟨c, more, same, by simpa using outside⟩

end Loose

/-- The code of two words, with a class between them that is taken at least once and as often as it can be. -/
structure TakesLoose (program : Array Instr) (loose : Loose) : Prop where
  opens : SpellsAt program 0 loose.front
  takes : program[loose.front.length]? = some (.chars loose.filler)
  repeats : program[loose.front.length + 1]? = some (.branch loose.front.length (loose.front.length + 2))
  closes : SpellsAt program (loose.front.length + 2) loose.back
  ends : program[loose.front.length + 2 + loose.back.length]? = some .done
  stops : loose.stops = true

instance (program : Array Instr) (loose : Loose) : Decidable (TakesLoose program loose) :=
  decidable_of_iff (SpellsAt program 0 loose.front ∧
      program[loose.front.length]? = some (.chars loose.filler) ∧
      program[loose.front.length + 1]? = some (.branch loose.front.length (loose.front.length + 2)) ∧
      SpellsAt program (loose.front.length + 2) loose.back ∧
      program[loose.front.length + 2 + loose.back.length]? = some .done ∧ loose.stops = true)
    ⟨fun ⟨a, b, c, d, e, f⟩ => ⟨a, b, c, d, e, f⟩, fun ⟨a, b, c, d, e, f⟩ => ⟨a, b, c, d, e, f⟩⟩

namespace TakesLoose

variable {program : Array Instr} {loose : Loose} {index start : Nat} {before : Option Char} {text : Text}
  {slots : List (Nat × Nat)}

theorem outcome_back (code : TakesLoose program loose) :
    outcome program index before text ⟨loose.front.length + 2, start, slots⟩ =
      (Text.after? loose.back text).map fun _ => ⟨start, index + loose.back.length, slots⟩ := by
  rw [outcome_word code.closes]
  cases Text.after? loose.back text with
  | none => rfl
  | some rest =>
    rw [Option.bind_some, outcome_done code.ends]
    rfl

-- Behind a filler the class is tried again before the second word is.
theorem outcome_choice (code : TakesLoose program loose) :
    outcome program index before text ⟨loose.front.length + 1, start, slots⟩ =
      (outcome program index before text ⟨loose.front.length, start, slots⟩).or
        ((Text.after? loose.back text).map fun _ => ⟨start, index + loose.back.length, slots⟩) := by
  have takes : Thread.isSettled program ⟨loose.front.length, start, slots⟩ = true := by
    simp [Thread.isSettled, code.takes]
  have closes : Thread.isSettled program ⟨loose.front.length + 2, start, slots⟩ = true := by
    obtain ⟨c, more, back, _⟩ := Loose.exists_cons_of_stops code.stops
    have spells := code.closes
    rw [back] at spells
    simp [Thread.isSettled, spells.1]
  rw [← code.outcome_back]
  exact outcome_branch code.repeats takes closes (by omega)

-- As long as the filler goes on, the second word cannot begin.
theorem after?_of_filler (code : TakesLoose program loose) {c : Char}
    (inside : loose.filler.has c.toNat = true) (rest : Text) : Text.after? loose.back (c :: rest) = none := by
  obtain ⟨d, more, back, outside⟩ := Loose.exists_cons_of_stops code.stops
  have apart : d ≠ c := by
    rintro rfl
    rw [outside] at inside
    simp at inside
  rw [back, Text.after?, if_neg apart]

theorem outcome_again (code : TakesLoose program loose) :
    outcome program index before text ⟨loose.front.length + 1, start, slots⟩ =
      (Text.after? loose.back (text.dropWhile fun c => loose.filler.has c.toNat)).map fun _ =>
        ⟨start, index + (text.takeWhile fun c => loose.filler.has c.toNat).length + loose.back.length,
          slots⟩ := by
  induction text generalizing index before with
  | nil =>
    rw [code.outcome_choice, outcome_chars_nil code.takes, Option.none_or]
    rfl
  | cons c rest ih =>
    rw [code.outcome_choice, outcome_chars code.takes, List.dropWhile_cons, List.takeWhile_cons]
    cases inside : loose.filler.has c.toNat with
    | true =>
      rw [if_pos rfl, if_pos rfl, if_pos rfl, code.after?_of_filler inside, Option.map_none, Option.or_none, ih,
        List.length_cons]
      congr 1
      funext _
      congr 1
      omega
    | false =>
      rw [if_neg (by simp), if_neg (by simp), if_neg (by simp), Option.none_or]
      rfl

/-- A match takes the first word, at least one filler and all that follow, and the second word. -/
theorem matchAt_eq_some_iff (code : TakesLoose program loose) {found : Outcome} :
    matchAt program index before text = some found ↔
      ∃ c rest tail, text = loose.front ++ c :: rest ∧ loose.filler.has c.toNat = true ∧
        rest.dropWhile (fun c => loose.filler.has c.toNat) = loose.back ++ tail ∧
        found = ⟨index, index + loose.front.length + 1 +
          (rest.takeWhile fun c => loose.filler.has c.toNat).length + loose.back.length, []⟩ := by
  have opens : SpellsAt program (Thread.starting index).next loose.front := code.opens
  have behind : (⟨(Thread.starting index).next + loose.front.length, (Thread.starting index).start,
      (Thread.starting index).slots⟩ : Thread) = ⟨loose.front.length, index, []⟩ := by
    rw [show (Thread.starting index).next = 0 from rfl, Nat.zero_add]
    rfl
  rw [matchAt_eq_outcome, outcome_word opens, Option.bind_eq_some_iff, behind]
  constructor
  · rintro ⟨rest, begins, result⟩
    cases rest with
    | nil =>
      rw [outcome_chars_nil code.takes] at result
      simp at result
    | cons c rest =>
      rw [outcome_chars code.takes] at result
      cases inside : loose.filler.has c.toNat with
      | false => simp [inside] at result
      | true =>
        rw [inside, if_pos rfl, code.outcome_again] at result
        obtain ⟨tail, closes, made⟩ := Option.map_eq_some_iff.mp result
        exact ⟨c, rest, tail, Text.after?_eq_some_iff.mp begins, inside,
          Text.after?_eq_some_iff.mp closes, made.symm⟩
  · rintro ⟨c, rest, tail, rfl, inside, closes, rfl⟩
    refine ⟨c :: rest, Text.after?_append loose.front _, ?_⟩
    rw [outcome_chars code.takes, if_pos inside, code.outcome_again, closes, Text.after?_append]
    rfl

theorem sound (code : TakesLoose program loose) {found : Outcome}
    (result : matchAt program index before text = some found) :
    ∃ piece rest, loose.Reads piece ∧ text = piece ++ rest ∧ found.stop = index + piece.length := by
  obtain ⟨c, rest, tail, pieces, inside, closes, made⟩ := code.matchAt_eq_some_iff.mp result
  have split : (rest.takeWhile fun c => loose.filler.has c.toNat) ++ (loose.back ++ tail) = rest := by
    rw [← closes, List.takeWhile_append_dropWhile]
  generalize same : (rest.takeWhile fun c => loose.filler.has c.toNat) = run at split made
  have all : ∀ d ∈ c :: run, loose.filler.has d.toNat = true := by
    refine List.forall_mem_cons.mpr ⟨inside, ?_⟩
    intro d member
    rw [← same] at member
    exact (List.mem_takeWhile_imp member :)
  refine ⟨loose.front ++ c :: run ++ loose.back, tail, ⟨c :: run, List.cons_ne_nil c run, all, rfl⟩, ?_, ?_⟩
  · rw [pieces, ← split]
    simp
  · rw [made]
    simp only [List.length_append, List.length_cons]
    omega

theorem complete (code : TakesLoose program loose) {piece : Text} (reads : loose.Reads piece) (rest : Text) :
    (matchAt program index before (piece ++ rest)).isSome = true := by
  obtain ⟨run, nonempty, all, rfl⟩ := reads
  obtain ⟨c, run, rfl⟩ := List.exists_cons_of_ne_nil nonempty
  obtain ⟨inside, others⟩ := List.forall_mem_cons.mp all
  have closes : (run ++ (loose.back ++ rest)).dropWhile (fun c => loose.filler.has c.toNat) =
      loose.back ++ rest := by
    obtain ⟨d, more, back, outside⟩ := Loose.exists_cons_of_stops code.stops
    rw [List.dropWhile_append_of_pos others, back]
    exact List.dropWhile_cons_of_neg (by simp [outside])
  have pieces : loose.front ++ c :: run ++ loose.back ++ rest =
      loose.front ++ c :: (run ++ (loose.back ++ rest)) := by simp
  exact Option.isSome_iff_exists.mpr ⟨_, code.matchAt_eq_some_iff.mpr ⟨c, _, rest, pieces, inside, closes, rfl⟩⟩

theorem recognizes (code : TakesLoose program loose) : Recognizes program loose.Reads where
  nonempty := by
    rintro piece ⟨run, nonempty, _, rfl⟩
    simp [nonempty]
  sound _ _ _ _ := code.sound
  complete _ _ _ rest reads := code.complete reads rest

end TakesLoose

end TextMigration.Pattern
