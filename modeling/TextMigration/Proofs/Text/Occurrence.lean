import TextMigration.Text.Basic

/-!
Occurrences of needles in a text. `cut?` stops at the earliest occurrence (`cut?_eq_some_iff`), and
`InOrder` says that several needles occur one behind the other, as the anchors of a block do.
-/

namespace TextMigration.Text

theorem cut?_eq_none_iff {needle text : Text} : cut? needle text = none ↔ ¬ needle <:+: text := by
  rw [← contains_iff_infix, contains]
  cases cut? needle text <;> simp

/-- No occurrence begins before the one that is cut at. -/
theorem cut?_earliest {needle text gap rest : Text} (found : cut? needle text = some (gap, rest))
    {lead tail : Text} (same : text = lead ++ needle ++ tail) : gap.length ≤ lead.length := by
  induction text generalizing gap rest lead with
  | nil =>
    by_cases empty : needle = []
    · simp [cut?, empty] at found
      simp [found.1]
    · simp [cut?, empty] at found
  | cons c text ih =>
    simp only [cut?] at found
    split at found
    · simp only [Option.some.injEq, Prod.mk.injEq] at found
      simp [← found.1]
    · next absent =>
      obtain ⟨⟨inner, after⟩, hit, made⟩ := Option.map_eq_some_iff.mp found
      simp only [Prod.mk.injEq] at made
      cases lead with
      | nil =>
        rw [List.nil_append] at same
        rw [after?_eq_some_iff.mpr same] at absent
        simp at absent
      | cons d lead =>
        simp only [List.cons_append, List.cons.injEq] at same
        have shorter := ih hit same.2
        rw [← made.1]
        simp only [List.length_cons]
        omega

theorem cut?_eq_some_iff {needle text gap rest : Text} :
    cut? needle text = some (gap, rest) ↔
      text = gap ++ needle ++ rest ∧
        ∀ lead tail, text = lead ++ needle ++ tail → gap.length ≤ lead.length := by
  constructor
  · intro found
    exact ⟨cut?_pieces found, fun lead tail same => cut?_earliest found same⟩
  · rintro ⟨pieces, earliest⟩
    have some := cut?_isSome_of_split gap needle rest
    rw [← pieces] at some
    obtain ⟨⟨other, tail⟩, found⟩ := Option.isSome_iff_exists.mp some
    have long := earliest other tail (cut?_pieces found)
    have short := cut?_earliest found pieces
    have same : gap ++ (needle ++ rest) = other ++ (needle ++ tail) := by
      rw [← List.append_assoc, ← List.append_assoc, ← pieces]
      exact cut?_pieces found
    obtain ⟨gaps, behind⟩ := List.append_inj same (Nat.le_antisymm long short)
    rw [found, gaps, List.append_cancel_left behind]

-- What follows an occurrence also follows the earliest one.
theorem cut?_suffix {needle text gap rest : Text} (found : cut? needle text = some (gap, rest))
    {lead tail : Text} (same : text = lead ++ needle ++ tail) : tail <:+ rest := by
  have early := cut?_earliest found same
  have both : gap ++ needle ++ rest = lead ++ needle ++ tail := by
    rw [← cut?_pieces found, same]
  have length := congrArg List.length both
  simp only [List.length_append] at length
  exact List.suffix_of_suffix_length_le ⟨_, rfl⟩ ⟨_, both⟩ (by omega)

theorem cut?_gap {needle text gap rest : Text} (nonempty : needle ≠ [])
    (found : cut? needle text = some (gap, rest)) : ¬ needle <:+: gap := by
  rintro ⟨lead, tail, inside⟩
  have early : text = lead ++ needle ++ (tail ++ needle ++ rest) := by
    rw [cut?_pieces found, ← inside]
    simp
  have bound := cut?_earliest found early
  rw [← inside] at bound
  have long := List.length_pos_iff.mpr nonempty
  simp only [List.length_append] at bound
  omega

def InOrder : List Text → Text → Prop
  | [], _ => True
  | part :: parts, text => ∃ lead rest, text = lead ++ part ++ rest ∧ InOrder parts rest

theorem inOrder_singleton {part text : Text} : InOrder [part] text ↔ part <:+: text := by
  constructor
  · rintro ⟨lead, rest, same, _⟩
    exact ⟨lead, rest, same.symm⟩
  · rintro ⟨lead, rest, same⟩
    exact ⟨lead, rest, same.symm, trivial⟩

theorem inOrder_pair {first second text : Text} :
    InOrder [first, second] text ↔ ∃ lead rest, text = lead ++ first ++ rest ∧ second <:+: rest :=
  exists_congr fun _ => exists_congr fun _ => and_congr_right fun _ => inOrder_singleton

namespace InOrder

variable {parts others : List Text} {text rest : Text}

theorem behind (inside : InOrder parts text) (lead : Text) : InOrder parts (lead ++ text) := by
  cases parts with
  | nil => trivial
  | cons part parts =>
    obtain ⟨before, rest, same, more⟩ := inside
    exact ⟨lead ++ before, rest, by rw [same]; simp, more⟩

theorem append (inside : InOrder parts text) (more : InOrder others rest) :
    InOrder (parts ++ others) (text ++ rest) := by
  induction parts generalizing text with
  | nil => exact more.behind text
  | cons part parts ih =>
    obtain ⟨lead, tail, same, inner⟩ := inside
    exact ⟨lead, tail ++ rest, by rw [same]; simp, ih inner⟩

end InOrder

end TextMigration.Text
