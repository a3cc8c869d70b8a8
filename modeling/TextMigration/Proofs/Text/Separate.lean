import Mathlib.Data.List.Infix
import TextMigration.Proofs.Text.Occurrence

/-!
Where a needle occurs after a piece is put into a text. If needle and piece are separate, an occurrence
cannot touch the piece, so it lies wholly in what stood before it or wholly in what stands behind it
(`Separate.beside`). Searching for the first occurrence, or for several needles one behind the other, can
then leave the piece out of account: `cut?_beside`, `InOrder.beside`.
-/

namespace TextMigration.Text

/-- The end of `left` begins `right`, and is neither empty nor all of `left`. -/
def RunsInto (left right : Text) : Prop :=
  ∃ part, part ≠ [] ∧ part ≠ left ∧ part <:+ left ∧ part <+: right

instance (left right : Text) : Decidable (RunsInto left right) :=
  decidable_of_iff (∃ part ∈ left.tails, part ≠ [] ∧ part ≠ left ∧ part <+: right) <| by
    simp only [RunsInto, List.mem_tails]
    constructor
    · rintro ⟨part, ending, some, proper, opening⟩
      exact ⟨part, some, proper, ending, opening⟩
    · rintro ⟨part, some, proper, ending, opening⟩
      exact ⟨part, ending, some, proper, opening⟩

/-- Two texts that cannot share a character when both occur in a third: neither is empty or in the other,
and neither runs into the other. -/
structure Separate (left right : Text) : Prop where
  left_nonempty : left ≠ []
  right_nonempty : right ≠ []
  left_outside : ¬ left <:+: right
  right_outside : ¬ right <:+: left
  left_clear : ¬ RunsInto left right
  right_clear : ¬ RunsInto right left

instance (left right : Text) : Decidable (Separate left right) :=
  decidable_of_iff (left ≠ [] ∧ right ≠ [] ∧ ¬ left <:+: right ∧ ¬ right <:+: left ∧
      ¬ RunsInto left right ∧ ¬ RunsInto right left)
    ⟨fun ⟨a, b, c, d, e, f⟩ => ⟨a, b, c, d, e, f⟩, fun ⟨a, b, c, d, e, f⟩ => ⟨a, b, c, d, e, f⟩⟩

namespace Separate

variable {needle piece : Text}

theorem symm (apart : Separate needle piece) : Separate piece needle :=
  ⟨apart.right_nonempty, apart.left_nonempty, apart.right_outside, apart.left_outside,
    apart.right_clear, apart.left_clear⟩

-- What ends the needle and is not all of it does not begin the piece.
theorem no_overlap (apart : Separate needle piece) {lead part rest : Text} (nonempty : part ≠ [])
    (ends : needle = lead ++ part) : piece ≠ part ++ rest := by
  intro begins
  by_cases all : lead = []
  · apply apart.left_outside
    rw [ends, all, begins]
    exact ⟨[], rest, by simp⟩
  · apply apart.left_clear
    refine ⟨part, nonempty, ?_, ⟨lead, ends.symm⟩, ⟨rest, begins.symm⟩⟩
    intro whole
    rw [← whole] at ends
    exact all (List.append_left_eq_self.mp ends.symm)

theorem beside (apart : Separate needle piece) {gap text lead rest : Text}
    (same : gap ++ piece ++ text = lead ++ needle ++ rest) :
    (∃ more, gap = lead ++ needle ++ more ∧ rest = more ++ piece ++ text) ∨
      ∃ more, text = more ++ needle ++ rest ∧ lead = gap ++ piece ++ more := by
  rw [List.append_assoc, List.append_assoc] at same
  rcases List.append_eq_append_iff.mp same with ⟨inner, leads, split⟩ | ⟨inner, gaps, split⟩
  -- The needle begins behind the gap.
  · rcases List.append_eq_append_iff.mp split with ⟨more, inners, texts⟩ | ⟨part, pieces, split⟩
    · exact Or.inr ⟨more, by simpa using texts, by rw [leads, inners, List.append_assoc]⟩
    · by_cases none : part = []
      · subst none
        exact Or.inr ⟨[], by simpa using split.symm, by simp [leads, pieces]⟩
      · rcases List.append_eq_append_iff.mp split with ⟨extra, parts, _⟩ | ⟨extra, needles, _⟩
        · exact absurd ⟨inner, extra, by rw [pieces, parts, List.append_assoc]⟩ apart.left_outside
        · exact absurd needles (apart.symm.no_overlap none pieces)
  -- The needle begins in the gap.
  · rcases List.append_eq_append_iff.mp split with ⟨more, inners, rests⟩ | ⟨part, needles, split⟩
    · exact Or.inl ⟨more, by rw [gaps, inners, List.append_assoc], by simpa using rests⟩
    · by_cases none : part = []
      · subst none
        exact Or.inl ⟨[], by simp [gaps, needles], by simpa using split.symm⟩
      · rcases List.append_eq_append_iff.mp split with ⟨extra, parts, _⟩ | ⟨extra, pieces, _⟩
        · exact absurd ⟨inner, extra, by rw [needles, parts, List.append_assoc]⟩ apart.right_outside
        · exact absurd pieces (apart.no_overlap none needles)

/-- Two texts that begin with the same mark, which occurs nowhere else in them, can only meet at their
beginnings. -/
theorem of_marked {mark : Char} {left right : Text} (left_fresh : mark ∉ left) (right_fresh : mark ∉ right)
    (left_differs : ¬ mark :: left <+: mark :: right) (right_differs : ¬ mark :: right <+: mark :: left) :
    Separate (mark :: left) (mark :: right) := by
  have outside {one other : Text} (fresh : mark ∉ other) (differs : ¬ mark :: one <+: mark :: other) :
      ¬ mark :: one <:+: mark :: other := by
    intro inside
    rcases List.infix_cons_iff.mp inside with begins | within
    · exact differs begins
    · exact fresh (within.subset List.mem_cons_self)
  have clear {one other : Text} (fresh : mark ∉ one) : ¬ RunsInto (mark :: one) (mark :: other) := by
    rintro ⟨part, some, proper, ends, begins⟩
    obtain ⟨c, more, rfl⟩ := List.exists_cons_of_ne_nil some
    rcases List.suffix_cons_iff.mp ends with whole | within
    · exact proper whole
    · rw [(List.cons_prefix_cons.mp begins).1] at within
      exact fresh (within.subset List.mem_cons_self)
  exact ⟨List.cons_ne_nil mark left, List.cons_ne_nil mark right, outside right_fresh left_differs,
    outside left_fresh right_differs, clear left_fresh, clear right_fresh⟩

end Separate

variable {needle piece gap text : Text}

theorem cut?_beside (apart : Separate needle piece) (absent : ¬ needle <:+: gap) :
    cut? needle (gap ++ piece ++ text) =
      (cut? needle text).map fun (lead, rest) => (gap ++ piece ++ lead, rest) := by
  cases found : cut? needle text with
  | none =>
    rw [Option.map_none, cut?_eq_none_iff]
    rintro ⟨lead, rest, inside⟩
    rcases apart.beside inside.symm with ⟨more, gaps, _⟩ | ⟨more, texts, _⟩
    · exact absent ⟨lead, more, gaps.symm⟩
    · exact cut?_eq_none_iff.mp found ⟨more, rest, texts.symm⟩
  | some cut =>
    obtain ⟨lead, rest⟩ := cut
    obtain ⟨pieces, earliest⟩ := cut?_eq_some_iff.mp found
    rw [Option.map_some, cut?_eq_some_iff]
    constructor
    · rw [pieces]
      simp
    · intro before tail same
      rcases apart.beside same with ⟨more, gaps, _⟩ | ⟨more, texts, leads⟩
      · exact absurd ⟨before, more, gaps.symm⟩ absent
      · have bound := earliest more tail texts
        simp only [leads, List.length_append]
        omega

theorem InOrder.beside {parts : List Text} (apart : ∀ part ∈ parts, Separate part piece)
    (inside : InOrder parts (gap ++ piece ++ text)) :
    ∃ early late, parts = early ++ late ∧ InOrder early gap ∧ InOrder late text := by
  induction parts generalizing gap with
  | nil => exact ⟨[], [], rfl, trivial, trivial⟩
  | cons part parts ih =>
    obtain ⟨lead, rest, same, more⟩ := inside
    rcases (apart part List.mem_cons_self).beside same with ⟨tail, gaps, rests⟩ | ⟨tail, texts, _⟩
    · rw [rests] at more
      obtain ⟨early, late, split, before, behind⟩ :=
        ih (fun other member => apart other (List.mem_cons_of_mem part member)) more
      exact ⟨part :: early, late, by rw [split]; rfl, ⟨lead, tail, gaps, before⟩, behind⟩
    · exact ⟨[], part :: parts, rfl, trivial, ⟨tail, rest, texts, more⟩⟩

end TextMigration.Text
