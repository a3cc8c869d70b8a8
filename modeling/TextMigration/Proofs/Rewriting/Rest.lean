import TextMigration.Proofs.Rewriting.SelfMatch

/-!
When a rule leaves a text as it is. It does when its gate is closed, and when a literal rule misses an
anchor. A rule that may write what it looks for can also spell out the text that was there before; a
literal rule that puts a text without its target in the place of its spans cannot: `apply_eq_self_iff`.
-/

namespace TextMigration.Rule

variable {rule : Rule} {target text : Text} {cuts : Cuts} {count : Nat}

def isGuarded (rule : Rule) : Bool := rule.precondition.any Precondition.isGuard

/-- There is nothing in the text that the rule would change. -/
def AtRest (rule : Rule) (text : Text) : Prop :=
  rule.isOpen text = false ∨
    (rule.matcher.isLiteral = true ∧ ¬ Text.InOrder rule.matcher.anchors text) ∨
    ((rule.isGuarded = true ∨ rule.matcher.isLiteral = false) ∧
      rule.splice (rule.take (rule.matcher.cut text).hits.length) (rule.matcher.cut text) = text)

structure Shortens (rule : Rule) : Prop where
  replaces : rule.placement = .replace
  shorter : ∃ target, rule.matcher.literalTarget? = some target ∧ rule.replacement.body.length < target.length

@[simp] theorem splice_nil (count : Nat) (tail : Text) : rule.splice count ⟨[], tail⟩ = tail := by
  simp [splice, Cuts.join]

@[simp] theorem splice_zero (cuts : Cuts) : rule.splice 0 cuts = cuts.join := by
  simp [splice]

@[simp] theorem splice_cons (count : Nat) (hit : Hit) (hits : List Hit) (tail : Text) :
    rule.splice (count + 1) ⟨hit :: hits, tail⟩ =
      hit.gap ++ rule.edited hit ++ rule.splice count ⟨hits, tail⟩ := by
  simp [splice]

theorem take_pos {found : Nat} (some : 0 < found) : 0 < rule.take found := by
  cases scope : rule.scope <;> simp only [take, scope] <;> omega

-- A rule that takes a span at all takes the first one.
theorem apply_text_cons {hit : Hit} {hits : List Hit} {tail : Text} (opened : rule.isOpen text = true)
    (cut : rule.matcher.cut text = ⟨hit :: hits, tail⟩) :
    ∃ count, (rule.apply text).1 = hit.gap ++ rule.edited hit ++ rule.splice count ⟨hits, tail⟩ := by
  have positive : 0 < rule.take (hit :: hits).length := take_pos (Nat.succ_pos _)
  obtain ⟨count, same⟩ := Nat.exists_eq_succ_of_ne_zero (Nat.ne_of_gt positive)
  exact ⟨count, by rw [apply_text opened, cut, same, splice_cons]⟩

section Target

variable (replaces : rule.placement = .replace) (targets : rule.matcher.literalTarget? = some target)

include replaces targets

theorem length_splice_le (opens : ∀ hit ∈ cuts.hits, target <+: hit.span)
    (short : rule.replacement.body.length ≤ target.length) :
    (rule.splice count cuts).length ≤ cuts.join.length := by
  obtain ⟨hits, tail⟩ := cuts
  induction hits generalizing count with
  | nil => simp [Cuts.join]
  | cons hit hits ih =>
    cases count with
    | zero => simp
    | succ count =>
      have others : (rule.splice count ⟨hits, tail⟩).length ≤ (Cuts.join ⟨hits, tail⟩).length :=
        ih fun other member => opens other (List.mem_cons_of_mem hit member)
      have span := (opens hit List.mem_cons_self).length_le
      rw [splice_cons, Cuts.join_cons, edited_literal replaces (Matcher.isLiteral_of_target targets)]
      simp only [List.length_append]
      omega

-- A span gives way to a shorter text, and so does every other one that is taken.
theorem length_apply_lt (opened : rule.isOpen text = true) (found : (rule.matcher.cut text).hits ≠ [])
    (short : rule.replacement.body.length < target.length) : (rule.apply text).1.length < text.length := by
  generalize cut : rule.matcher.cut text = cuts at found
  obtain ⟨_ | ⟨hit, hits⟩, tail⟩ := cuts
  · exact absurd rfl found
  · have opens := Matcher.span_target targets text
    have whole := Matcher.join_cut rule.matcher text
    rw [cut] at opens whole
    obtain ⟨count, changed⟩ := apply_text_cons opened cut
    have others : (rule.splice count ⟨hits, tail⟩).length ≤ (Cuts.join ⟨hits, tail⟩).length :=
      length_splice_le replaces targets (fun other member => opens other (List.mem_cons_of_mem hit member))
        (Nat.le_of_lt short)
    have span := (opens hit List.mem_cons_self).length_le
    rw [changed, ← whole, Cuts.join_cons, edited_literal replaces (Matcher.isLiteral_of_target targets)]
    simp only [List.length_append]
    omega

-- A text without the target cannot stand in for a span, which begins with it.
theorem apply_ne_self (opened : rule.isOpen text = true) (found : (rule.matcher.cut text).hits ≠ [])
    (outside : ¬ target <:+: rule.replacement.body) : (rule.apply text).1 ≠ text := by
  by_cases short : rule.replacement.body.length < target.length
  · intro same
    have shorter := length_apply_lt replaces targets opened found short
    rw [same] at shorter
    exact Nat.lt_irrefl _ shorter
  · generalize cut : rule.matcher.cut text = cuts at found
    obtain ⟨_ | ⟨hit, hits⟩, tail⟩ := cuts
    · exact absurd rfl found
    · intro same
      have opens := Matcher.span_target targets text
      have whole := Matcher.join_cut rule.matcher text
      rw [cut] at opens whole
      obtain ⟨count, changed⟩ := apply_text_cons opened cut
      rw [same, ← whole, Cuts.join_cons, edited_literal replaces (Matcher.isLiteral_of_target targets),
        List.append_assoc, List.append_assoc] at changed
      -- Behind the gap one text begins with the target and with the replacement, which is no shorter.
      have behind := List.append_cancel_left changed
      have span : target <+: hit.span ++ Cuts.join ⟨hits, tail⟩ :=
        (opens hit List.mem_cons_self).trans (List.prefix_append _ _)
      have body : rule.replacement.body <+: hit.span ++ Cuts.join ⟨hits, tail⟩ := by
        rw [behind]
        exact List.prefix_append _ _
      exact outside (List.prefix_of_prefix_length_le span body (Nat.le_of_not_lt short)).isInfix

end Target

-- What is known of the replacement of a rule that cannot take its own output and has no guard.
theorem replaces_of_kept (nonblank : rule.matcher.isBlank = false) (kept : rule.rematchesOwnOutput = false)
    (unguarded : rule.isGuarded = false) (targets : rule.matcher.literalTarget? = some target) :
    rule.placement = .replace ∧ ¬ target <:+: rule.replacement.body := by
  rw [isGuarded, ← Bool.not_eq_true, Precondition.any_isGuard_iff, not_exists] at unguarded
  obtain ⟨replaces, uncaught⟩ := kept_iff.mp kept unguarded
  refine ⟨replaces, ?_⟩
  cases matcher : rule.matcher with
  | exact needle =>
    rw [matcher] at targets uncaught nonblank
    have same : needle = target := Option.some.inj targets
    have some : needle ≠ [] := by simpa [Matcher.isBlank] using nonblank
    rw [← same]
    exact fun inside => uncaught ⟨some, inside⟩
  | delimited start stop =>
    rw [matcher] at targets uncaught
    have same : start = target := Option.some.inj targets
    rw [← same]
    exact uncaught
  | pattern p =>
    rw [matcher] at targets
    simp [Matcher.literalTarget?] at targets

/-- An acceptable rule leaves a text alone exactly where it is at rest. -/
theorem apply_eq_self_iff (nonblank : rule.matcher.isBlank = false) (kept : rule.rematchesOwnOutput = false) :
    (rule.apply text).1 = text ↔ rule.AtRest text := by
  by_cases opened : rule.isOpen text = true
  · constructor
    · intro same
      by_cases free : rule.isGuarded = true ∨ rule.matcher.isLiteral = false
      · rw [apply_text opened] at same
        exact Or.inr (Or.inr ⟨free, same⟩)
      · obtain ⟨unguarded, literal⟩ := not_or.mp free
        rw [Bool.not_eq_true] at unguarded
        rw [Bool.not_eq_false] at literal
        refine Or.inr (Or.inl ⟨literal, ?_⟩)
        rw [← Matcher.hits_eq_nil_iff literal nonblank]
        obtain ⟨target, targets⟩ := Matcher.target_of_isLiteral literal
        obtain ⟨replaces, outside⟩ := replaces_of_kept nonblank kept unguarded targets
        by_contra found
        exact apply_ne_self replaces targets opened found outside same
    · rintro (closed | ⟨literal, absent⟩ | ⟨_, same⟩)
      · rw [opened] at closed
        simp at closed
      · rw [apply_of_missing opened ((Matcher.hits_eq_nil_iff literal nonblank).mpr absent)]
      · rw [apply_text opened, same]
  · rw [Bool.not_eq_true] at opened
    obtain ⟨gate, _, _, skipped⟩ := apply_of_closed opened
    rw [skipped]
    exact ⟨fun _ => Or.inl opened, fun _ => rfl⟩

namespace Shortens

theorem length_lt (shortens : rule.Shortens) (nonblank : rule.matcher.isBlank = false)
    (restless : ¬ rule.AtRest text) : (rule.apply text).1.length < text.length := by
  obtain ⟨target, targets, short⟩ := shortens.shorter
  have literal := Matcher.isLiteral_of_target targets
  obtain ⟨opened, others⟩ := not_or.mp restless
  rw [Bool.not_eq_false] at opened
  have found : (rule.matcher.cut text).hits ≠ [] := by
    intro missing
    exact others (Or.inl ⟨literal, (Matcher.hits_eq_nil_iff literal nonblank).mp missing⟩)
  exact length_apply_lt shortens.replaces targets opened found short

theorem length_le (shortens : rule.Shortens) (text : Text) : (rule.apply text).1.length ≤ text.length := by
  obtain ⟨target, targets, short⟩ := shortens.shorter
  by_cases opened : rule.isOpen text = true
  · have shorter : (rule.splice (rule.take (rule.matcher.cut text).hits.length)
        (rule.matcher.cut text)).length ≤ (rule.matcher.cut text).join.length :=
      length_splice_le shortens.replaces targets (Matcher.span_target targets text) (Nat.le_of_lt short)
    rw [Matcher.join_cut] at shorter
    rw [apply_text opened]
    exact shorter
  · rw [Bool.not_eq_true] at opened
    obtain ⟨gate, _, _, skipped⟩ := apply_of_closed opened
    rw [skipped]

end Shortens

end TextMigration.Rule
