import TextMigration.Proofs.Matching.Anchors

/-!
A text laid out for several needles at once: pieces in order, each of them a needle, and the gaps between
them. A piece `Faces` a needle if it is that needle, cut at its first occurrence, or is separate from it.
When all pieces face a needle, the needle's own pieces are its cuts and the other ones go with the gaps
(`cut_join`); two separate needles always have a common layout (`exists_layout`).
-/

namespace TextMigration

namespace Text

variable {needle text gap rest : Text}

-- More text behind does not move the earliest occurrence.
theorem cut?_append (found : cut? needle text = some (gap, rest)) (more : Text) :
    cut? needle (text ++ more) = some (gap, rest ++ more) := by
  obtain ⟨pieces, earliest⟩ := cut?_eq_some_iff.mp found
  refine cut?_eq_some_iff.mpr ⟨by rw [pieces, List.append_assoc], ?_⟩
  intro lead tail same
  by_contra early
  have before : lead ++ needle <+: text := by
    refine List.prefix_of_prefix_length_le ⟨tail, same.symm⟩ (List.prefix_append text more) ?_
    rw [pieces]
    simp only [List.length_append]
    omega
  obtain ⟨behind, whole⟩ := before
  exact early (earliest lead behind whole.symm)

-- The text up to the end of the first occurrence has none before it.
theorem cut?_front (found : cut? needle text = some (gap, rest)) :
    cut? needle (gap ++ needle) = some (gap, []) := by
  obtain ⟨pieces, earliest⟩ := cut?_eq_some_iff.mp found
  refine cut?_eq_some_iff.mpr ⟨by simp, ?_⟩
  intro lead tail same
  exact earliest lead (tail ++ rest) (by rw [pieces, same, List.append_assoc])

end Text

/-- The piece is the needle, and the needle does not occur before it; or the piece has nothing of it. -/
inductive Hit.Faces (needle : Text) (hit : Hit) : Prop where
  | own (same : hit.span = needle) (first : Text.cut? needle (hit.gap ++ needle) = some (hit.gap, []))
  | foreign (apart : Text.Separate needle hit.span) (absent : ¬ needle <:+: hit.gap)

namespace Cuts

/-- Every piece faces the needle, which does not occur behind the last piece. -/
structure IsLaidOut (needle : Text) (cuts : Cuts) : Prop where
  faces : ∀ hit ∈ cuts.hits, hit.Faces needle
  behind : ¬ needle <:+: cuts.tail

def owned (needle tail : Text) : List Hit → Cuts
  | [] => ⟨[], tail⟩
  | hit :: hits =>
    let others := owned needle tail hits
    if hit.span = needle then ⟨⟨hit.gap, needle, none⟩ :: others.hits, others.tail⟩
    else others.behind (hit.gap ++ hit.span)

def tally (needle : Text) (hits : List Hit) : Nat := hits.countP fun hit => hit.span = needle

variable {needle other tail : Text} {hits : List Hit}

theorem length_owned (needle tail : Text) (hits : List Hit) :
    (owned needle tail hits).hits.length = tally needle hits := by
  induction hits with
  | nil => rfl
  | cons hit hits ih =>
    rw [owned, tally, List.countP_cons]
    by_cases own : hit.span = needle
    · simpa [own, tally] using ih
    · simpa [own, tally] using ih

theorem IsLaidOut.rest {hit : Hit} (laid : IsLaidOut needle ⟨hit :: hits, tail⟩) :
    IsLaidOut needle ⟨hits, tail⟩ :=
  ⟨fun later member => laid.faces later (List.mem_cons_of_mem hit member), laid.behind⟩

end Cuts

namespace Matcher

variable {needle other tail : Text} {hits : List Hit}

theorem cut_exact_absent {text : Text} (nonempty : needle ≠ []) (absent : ¬ needle <:+: text) :
    (exact needle).cut text = ⟨[], text⟩ := by
  have nonblank : (exact needle).isBlank = false := by simpa [isBlank] using nonempty
  apply cut_eq_of_cutting
  apply Cutting.done
  rw [first?_exact nonblank, Text.cut?_eq_none_iff.mpr absent]
  rfl

theorem cut_join (nonempty : needle ≠ []) (laid : Cuts.IsLaidOut needle ⟨hits, tail⟩) :
    (exact needle).cut (Cuts.join ⟨hits, tail⟩) = Cuts.owned needle tail hits := by
  induction hits with
  | nil => exact cut_exact_absent nonempty laid.behind
  | cons hit hits ih =>
    have others := ih laid.rest
    rw [Cuts.join_cons, Cuts.owned]
    cases laid.faces hit List.mem_cons_self with
    | own same first =>
      have nonblank : (exact needle).isBlank = false := by simpa [isBlank] using nonempty
      have found : (exact needle).first? none (hit.gap ++ needle ++ Cuts.join ⟨hits, tail⟩) =
          some (⟨hit.gap, needle, none⟩, Cuts.join ⟨hits, tail⟩) := by
        rw [first?_exact nonblank, Text.cut?_append first]
        rfl
      rw [if_pos same, same, ← others]
      exact cut_eq_of_cutting (.next found ((cut_cutting _ _).from_any rfl _))
    | foreign apart absent =>
      have unlike : hit.span ≠ needle := fun same => apart.right_outside (same ▸ List.infix_rfl)
      rw [if_neg unlike, ← others]
      exact cut_beside rfl apart absent

end Matcher

namespace Cuts

variable {needle other : Text}

-- The piece that comes first in a text for two needles, if there is one.
theorem exists_first (apart : Text.Separate needle other) (text : Text) :
    (¬ needle <:+: text ∧ ¬ other <:+: text) ∨
      ∃ hit : Hit, ∃ rest, text = hit.gap ++ hit.span ++ rest ∧ hit.span ≠ [] ∧
        hit.Faces needle ∧ hit.Faces other := by
  cases first : Text.cut? needle text with
  | none =>
    have absent := Text.cut?_eq_none_iff.mp first
    cases second : Text.cut? other text with
    | none => exact Or.inl ⟨absent, Text.cut?_eq_none_iff.mp second⟩
    | some cut =>
      obtain ⟨gap, rest⟩ := cut
      have pieces := Text.cut?_pieces second
      refine Or.inr ⟨⟨gap, other, none⟩, rest, pieces, apart.right_nonempty, ?_, ?_⟩
      · refine .foreign apart fun inside => absent (inside.trans ?_)
        exact ⟨[], other ++ rest, by rw [pieces]; simp⟩
      · exact .own rfl (Text.cut?_front second)
  | some cut =>
    obtain ⟨gap, rest⟩ := cut
    have pieces := Text.cut?_pieces first
    cases second : Text.cut? other gap with
    | none =>
      refine Or.inr ⟨⟨gap, needle, none⟩, rest, pieces, apart.left_nonempty, ?_, ?_⟩
      · exact .own rfl (Text.cut?_front first)
      · exact .foreign apart.symm (Text.cut?_eq_none_iff.mp second)
    | some cut =>
      obtain ⟨inner, more⟩ := cut
      have inners := Text.cut?_pieces second
      refine Or.inr ⟨⟨inner, other, none⟩, more ++ needle ++ rest, ?_, apart.right_nonempty, ?_, ?_⟩
      · rw [pieces, inners]
        simp
      · refine .foreign apart fun inside => Text.cut?_gap apart.left_nonempty first (inside.trans ?_)
        exact ⟨[], other ++ more, by rw [inners]; simp⟩
      · exact .own rfl (Text.cut?_front second)

/-- Every text can be laid out for two separate needles. -/
theorem exists_layout (apart : Text.Separate needle other) (text : Text) :
    ∃ cuts : Cuts, cuts.join = text ∧ cuts.IsLaidOut needle ∧ cuts.IsLaidOut other := by
  induction length : text.length using Nat.strong_induction_on generalizing text with
  | _ size ih =>
    rcases exists_first apart text with ⟨absent, missing⟩ | ⟨hit, rest, pieces, some, first, second⟩
    · exact ⟨⟨[], text⟩, rfl, ⟨by simp, absent⟩, ⟨by simp, missing⟩⟩
    · have shorter : rest.length < size := by
        have positive := List.length_pos_iff.mpr some
        rw [← length, pieces]
        simp only [List.length_append]
        omega
      obtain ⟨⟨hits, tail⟩, joined, one, two⟩ := ih rest.length shorter rest rfl
      refine ⟨⟨hit :: hits, tail⟩, ?_, ?_, ?_⟩
      · rw [join_cons, joined, pieces]
      · exact ⟨List.forall_mem_cons.mpr ⟨first, one.faces⟩, one.behind⟩
      · exact ⟨List.forall_mem_cons.mpr ⟨second, two.faces⟩, two.behind⟩

end Cuts

end TextMigration
