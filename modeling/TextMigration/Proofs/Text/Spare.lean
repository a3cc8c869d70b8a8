import TextMigration.Proofs.Text.Separate

/-!
Where a needle occurs once a piece has taken the place of a span. A piece that is separate from the needle
makes no occurrence of it. A weaker condition does as well: an occurrence may end inside the piece, if the
span began with the same characters, for then it was there before (`Spares`). What occurs in order after the
exchange then occurred in order before it (`InOrder.spared`).
-/

namespace TextMigration.Text

/-- A piece that makes no occurrence of the needle in the place of a span that begins with `front`: none begins
in it, and one that ends in it takes no more of it than `front` has as well. -/
structure Spares (needle front piece : Text) : Prop where
  nonempty : needle ≠ []
  clear : ∀ part, part ≠ [] → part <:+ piece → ¬ (part <+: needle ∨ needle <+: part)
  shared : ∀ part, part ≠ [] → part <:+ needle → part <+: piece ∨ piece <+: part →
    part <+: front ∧ ¬ piece <+: part

section Decision

def meets : Text → Text → Bool
  | [], _ => true
  | _ :: _, [] => true
  | c :: left, d :: right => if c = d then meets left right else false

def allEnds (test : Text → Bool) : Text → Bool
  | [] => true
  | c :: rest => test (c :: rest) && allEnds test rest

theorem meets_iff {left right : Text} : meets left right = true ↔ left <+: right ∨ right <+: left := by
  induction left generalizing right with
  | nil => simp [meets]
  | cons c left ih =>
    cases right with
    | nil => simp [meets]
    | cons d right =>
      by_cases same : c = d
      · simp [meets, same, ih]
      · simp [meets, same, Ne.symm same]

theorem allEnds_iff {test : Text → Bool} {text : Text} :
    allEnds test text = true ↔ ∀ part, part ≠ [] → part <:+ text → test part = true := by
  induction text with
  | nil =>
    simp only [allEnds, List.suffix_nil, true_iff]
    intro part some none
    exact absurd none some
  | cons c rest ih =>
    rw [allEnds, Bool.and_eq_true, ih]
    constructor
    · rintro ⟨whole, others⟩ part some ends
      rcases List.suffix_cons_iff.mp ends with rfl | within
      · exact whole
      · exact others part some within
    · intro all
      exact ⟨all _ (List.cons_ne_nil c rest) List.suffix_rfl,
        fun part some ends => all part some (ends.trans (List.suffix_cons c rest))⟩

-- Each end of the piece and of the needle is looked at once.
instance (needle front piece : Text) : Decidable (Spares needle front piece) :=
  decidable_of_iff (needle ≠ [] ∧ allEnds (fun part => !meets part needle) piece = true ∧
      allEnds (fun part => !meets part piece || part.isPrefixOf front && !piece.isPrefixOf part) needle = true) <| by
    simp only [allEnds_iff, Bool.or_eq_true, Bool.and_eq_true, Bool.not_eq_true', ← Bool.not_eq_true, meets_iff,
      List.isPrefixOf_iff_prefix, ← Decidable.imp_iff_not_or]
    exact ⟨fun ⟨a, b, c⟩ => ⟨a, b, c⟩, fun ⟨a, b, c⟩ => ⟨a, b, c⟩⟩

end Decision

-- No end of either text meets the other.
theorem Separate.spares {needle piece : Text} (apart : Separate needle piece) (front : Text) :
    Spares needle front piece where
  nonempty := apart.left_nonempty
  clear part some ends := by
    rintro (begins | within)
    · by_cases whole : part = piece
      · exact apart.right_outside (whole ▸ begins.isInfix)
      · exact apart.right_clear ⟨part, some, whole, ends, begins⟩
    · exact apart.left_outside (within.isInfix.trans ends.isInfix)
  shared part some ends := by
    rintro (begins | within)
    · by_cases whole : part = needle
      · exact absurd (whole ▸ begins.isInfix) apart.left_outside
      · exact absurd ⟨part, some, whole, ends, begins⟩ apart.left_clear
    · exact absurd (within.isInfix.trans ends.isInfix) apart.right_outside

variable {needle front span piece gap text lead rest : Text} {parts : List Text}

-- Two beginnings of one text meet.
theorem meet_of_append {left right : Text} (same : left ++ text = right ++ rest) :
    left <+: right ∨ right <+: left :=
  List.prefix_or_prefix_of_prefix ⟨text, same⟩ ⟨rest, rfl⟩

namespace Spares

theorem behind (spares : Spares needle front piece) {left : Text} (ends : left <:+ piece)
    (same : left ++ text = lead ++ needle ++ rest) : ∃ more, text = more ++ needle ++ rest := by
  rw [List.append_assoc] at same
  rcases List.append_eq_append_iff.mp same with ⟨more, _, texts⟩ | ⟨inner, lefts, split⟩
  · exact ⟨more, by simpa using texts⟩
  · by_cases none : inner = []
    · exact ⟨[], by simpa [none] using split.symm⟩
    · have ending : inner <:+ piece := (List.suffix_append lead inner).trans (lefts ▸ ends)
      exact absurd (meet_of_append split.symm) (spares.clear inner none ending)

theorem behind_all (spares : ∀ part ∈ parts, Spares part front piece) {left : Text} (ends : left <:+ piece)
    (inside : InOrder parts (left ++ text)) : InOrder parts text := by
  cases parts with
  | nil => trivial
  | cons part parts =>
    obtain ⟨lead, rest, same, others⟩ := inside
    obtain ⟨more, texts⟩ := (spares part List.mem_cons_self).behind ends same
    exact ⟨more, rest, texts, others⟩

/-- Where an occurrence can lie: in the gap, across the seam with no more of the piece than the span has too,
or behind the piece. -/
theorem cases (spares : Spares needle front piece) (begins : front <+: span)
    (same : gap ++ piece ++ text = lead ++ needle ++ rest) :
    (∃ more, gap = lead ++ needle ++ more ∧ rest = more ++ piece ++ text) ∨
      (∃ more left, gap ++ span = lead ++ needle ++ more ∧ left <:+ piece ∧ rest = left ++ text) ∨
      ∃ more, text = more ++ needle ++ rest := by
  rw [List.append_assoc, List.append_assoc] at same
  rcases List.append_eq_append_iff.mp same with ⟨inner, _, split⟩ | ⟨inner, gaps, split⟩
  · exact Or.inr (Or.inr (spares.behind List.suffix_rfl (by simpa using split)))
  · rcases List.append_eq_append_iff.mp split with ⟨more, inners, rests⟩ | ⟨part, needles, split⟩
    · exact Or.inl ⟨more, by rw [gaps, inners, List.append_assoc], by simpa using rests⟩
    · by_cases none : part = []
      · subst none
        exact Or.inl ⟨[], by simp [gaps, needles], by simpa using split.symm⟩
      · have meet := meet_of_append split.symm
        obtain ⟨⟨more, fronts⟩, proper⟩ := spares.shared part none ⟨inner, needles.symm⟩ meet
        obtain ⟨left, pieces⟩ := meet.resolve_right proper
        obtain ⟨others, spans⟩ := begins
        refine Or.inr (Or.inl ⟨more ++ others, left, ?_, ⟨part, pieces⟩, ?_⟩)
        · rw [gaps, needles, ← spans, ← fronts]
          simp
        · rw [← pieces, List.append_assoc] at split
          exact (List.append_cancel_left split).symm

end Spares

theorem InOrder.spared (spares : ∀ part ∈ parts, Spares part front piece) (begins : front <+: span)
    (inside : InOrder parts (gap ++ piece ++ text)) :
    ∃ early late, parts = early ++ late ∧ InOrder early (gap ++ span) ∧ InOrder late text := by
  induction parts generalizing gap with
  | nil => exact ⟨[], [], rfl, trivial, trivial⟩
  | cons part parts ih =>
    obtain ⟨lead, rest, same, more⟩ := inside
    have others : ∀ other ∈ parts, Spares other front piece :=
      fun other member => spares other (List.mem_cons_of_mem part member)
    rcases (spares part List.mem_cons_self).cases begins same with
      ⟨tail, gaps, rests⟩ | ⟨tail, left, spans, ends, rests⟩ | ⟨tail, texts⟩
    · rw [rests] at more
      obtain ⟨early, late, split, before, behind⟩ := ih others more
      exact ⟨part :: early, late, by rw [split]; rfl, ⟨lead, tail ++ span, by rw [gaps]; simp, before⟩, behind⟩
    · rw [rests] at more
      exact ⟨[part], parts, rfl, ⟨lead, tail, spans, trivial⟩, Spares.behind_all others ends more⟩
    · exact ⟨[], part :: parts, rfl, trivial, ⟨tail, rest, texts, more⟩⟩

end TextMigration.Text
