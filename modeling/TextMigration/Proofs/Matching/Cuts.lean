import TextMigration.Matcher
import TextMigration.Proofs.Search.Extent

/-!
What a matcher makes of a text. `Cutting` is the relation that `cut` computes, without its fuel: hit after
hit until nothing is found. It has one answer (`cut_eq_of_cutting`); whatever the matcher, gaps and spans
are the text again (`join_cut`) and no span is empty (`span_nonempty`).
-/

namespace TextMigration

namespace Matcher

variable {matcher : Matcher} {before : Option Char} {text rest : Text} {hit : Hit}

theorem first?_pieces (found : matcher.first? before text = some (hit, rest)) :
    text = hit.gap ++ hit.span ++ rest ∧ hit.span ≠ [] := by
  cases matcher with
  | exact needle =>
    simp only [first?] at found
    split at found
    · simp at found
    · next nonblank =>
      obtain ⟨⟨gap, tail⟩, cut, made⟩ := Option.map_eq_some_iff.mp found
      simp only [Prod.mk.injEq] at made
      obtain ⟨rfl, rfl⟩ := made
      exact ⟨Text.cut?_pieces cut, by simpa using nonblank⟩
  | delimited start stop =>
    simp only [first?] at found
    split at found
    · simp at found
    · next nonblank =>
      simp only [Option.bind_eq_bind, Option.bind_eq_some_iff, Option.pure_def, Option.some.injEq,
        Prod.mk.injEq, Prod.exists] at found
      obtain ⟨gap, inner, opening, body, tail, closing, rfl, rfl⟩ := found
      constructor
      · rw [Text.cut?_pieces opening, Text.cut?_pieces closing]
        simp
      · intro empty
        simp_all
  | pattern p =>
    obtain ⟨⟨gap, found, tail⟩, search, made⟩ := Option.map_eq_some_iff.mp found
    simp only [Prod.mk.injEq] at made
    obtain ⟨rfl, rfl⟩ := made
    exact Pattern.first?_pieces search

/-- The cuts of a text, given the character before it: each hit is the first one behind the hit before. -/
inductive Cutting (matcher : Matcher) : Option Char → Text → Cuts → Prop where
  | done {before : Option Char} {text : Text} (absent : matcher.first? before text = none) :
    Cutting matcher before text ⟨[], text⟩
  | next {before : Option Char} {text rest : Text} {hit : Hit} {cuts : Cuts}
    (found : matcher.first? before text = some (hit, rest))
    (others : Cutting matcher hit.span.getLast? rest cuts) :
    Cutting matcher before text ⟨hit :: cuts.hits, cuts.tail⟩

-- A span takes a character at least, so the fuel lasts until nothing is found.
theorem cutFrom_cutting {fuel : Nat} (enough : text.length ≤ fuel) :
    Cutting matcher before text (matcher.cutFrom fuel before text) := by
  induction fuel generalizing before text with
  | zero =>
    have empty : text = [] := List.length_eq_zero_iff.mp (Nat.le_zero.mp enough)
    subst empty
    cases found : matcher.first? before [] with
    | none => exact .done found
    | some cut =>
      obtain ⟨pieces, some⟩ := first?_pieces found
      exact absurd (List.append_eq_nil_iff.mp (List.append_eq_nil_iff.mp pieces.symm).1).2 some
  | succ fuel ih =>
    rw [cutFrom]
    cases found : matcher.first? before text with
    | none => exact .done found
    | some cut =>
      obtain ⟨hit, rest⟩ := cut
      obtain ⟨pieces, some⟩ := first?_pieces found
      have length := congrArg List.length pieces
      have positive := List.length_pos_iff.mpr some
      simp only [List.length_append] at length
      exact .next found (ih (by omega))

theorem cut_cutting (matcher : Matcher) (text : Text) : Cutting matcher none text (matcher.cut text) :=
  cutFrom_cutting (Nat.le_refl _)

namespace Cutting

variable {cuts others : Cuts}

theorem unique (one : Cutting matcher before text cuts) (two : Cutting matcher before text others) :
    cuts = others := by
  induction one generalizing others with
  | done absent =>
    cases two with
    | done => rfl
    | next found =>
      rw [absent] at found
      simp at found
  | next found _ ih =>
    cases two with
    | done absent =>
      rw [absent] at found
      simp at found
    | next found' behind =>
      rw [found] at found'
      simp only [Option.some.injEq, Prod.mk.injEq] at found'
      obtain ⟨rfl, rfl⟩ := found'
      rw [ih behind]

theorem join (cutting : Cutting matcher before text cuts) : cuts.join = text := by
  induction cutting with
  | done => rfl
  | next found _ ih =>
    rw [(first?_pieces found).1, ← ih]
    simp [Cuts.join]

-- What holds of every first span holds of all spans.
theorem forall_hits {holds : Hit → Prop} (cutting : Cutting matcher before text cuts)
    (first : ∀ before text hit rest, matcher.first? before text = some (hit, rest) → holds hit) :
    ∀ hit ∈ cuts.hits, holds hit := by
  induction cutting with
  | done =>
    intro hit member
    simp at member
  | next found _ ih =>
    intro other member
    rcases List.mem_cons.mp member with same | later
    · rw [same]
      exact first _ _ _ _ found
    · exact ih other later

end Cutting

theorem cut_eq_of_cutting {cuts : Cuts} (cutting : Cutting matcher none text cuts) :
    matcher.cut text = cuts :=
  (cut_cutting matcher text).unique cutting

theorem hits_eq_nil_iff_first? : (matcher.cut text).hits = [] ↔ matcher.first? none text = none := by
  generalize made : matcher.cut text = cuts
  have cutting := cut_cutting matcher text
  rw [made] at cutting
  cases cutting with
  | done absent => simp [absent]
  | next found => simp [found]

theorem join_cut (matcher : Matcher) (text : Text) : (matcher.cut text).join = text :=
  (cut_cutting matcher text).join

theorem tail_of_missing (missing : (matcher.cut text).hits = []) : (matcher.cut text).tail = text := by
  have whole := join_cut matcher text
  rw [Cuts.join, missing] at whole
  exact whole

theorem span_nonempty (matcher : Matcher) (text : Text) : ∀ hit ∈ (matcher.cut text).hits, hit.span ≠ [] :=
  (cut_cutting matcher text).forall_hits fun _ _ _ _ found => (first?_pieces found).2

theorem span_of_exact (needle text : Text) : ∀ hit ∈ ((exact needle).cut text).hits, hit.span = needle := by
  refine (cut_cutting (exact needle) text).forall_hits ?_
  intro before text hit rest first
  simp only [first?] at first
  split at first
  · simp at first
  · obtain ⟨⟨gap, tail⟩, _, made⟩ := Option.map_eq_some_iff.mp first
    simp only [Prod.mk.injEq] at made
    rw [← made.1]

-- A hit of a pattern tells its match, and the span is all of the match.
theorem found_of_pattern {p : Pattern} :
    ∀ hit ∈ ((pattern p).cut text).hits, ∃ found, hit.found = some found ∧ found.text = hit.span := by
  refine (cut_cutting (pattern p) text).forall_hits ?_
  intro before text hit rest first
  obtain ⟨⟨gap, found, tail⟩, _, made⟩ := Option.map_eq_some_iff.mp first
  simp only [Prod.mk.injEq] at made
  obtain ⟨rfl, rfl⟩ := made
  exact ⟨found, rfl, rfl⟩

end Matcher

end TextMigration
