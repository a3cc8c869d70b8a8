import Mathlib.Logic.Function.Iterate
import TextMigration.Proofs.Rewriting.Applying

/-!
A rule that takes one span at a time against the rule that takes them all. Each shot searches the changed
text from its beginning; when the replacement is separate from what the rule looks for, the shot leaves
the other spans as they were, so that as many shots as there are spans do what the rule does at once.
-/

namespace TextMigration.Rule

variable {rule : Rule} {target text : Text}

def shot (rule : Rule) (text : Text) : Text := ({ rule with scope := .first }.apply text).1

theorem cut_shot (plain : rule.IsPlain) (targets : rule.matcher.literalTarget? = some target)
    (apart : Text.Separate target rule.replacement.body) {hit : Hit} {hits : List Hit} {tail : Text}
    (cut : rule.matcher.cut text = ⟨hit :: hits, tail⟩) :
    rule.matcher.cut (rule.shot text) =
      Cuts.behind (hit.gap ++ rule.replacement.body) ⟨hits, tail⟩ := by
  have once : IsPlain { rule with scope := .first } := ⟨plain.ungated, plain.replaces, plain.literal⟩
  obtain ⟨_, absent, others⟩ := Matcher.cut_cons targets cut
  rw [shot, once.apply_first rfl cut]
  show rule.matcher.cut (hit.gap ++ rule.replacement.body ++ Cuts.join ⟨hits, tail⟩) = _
  rw [Matcher.cut_beside targets apart absent, others]

-- The number of spans goes down by one with each shot, and the filled text stays as it is.
theorem shots (plain : rule.IsPlain) (targets : rule.matcher.literalTarget? = some target)
    (apart : Text.Separate target rule.replacement.body) (count : Nat) (text : Text)
    (length : (rule.matcher.cut text).hits.length = count) :
    (∀ i ≤ count, (rule.matcher.cut (rule.shot^[i] text)).hits.length = count - i) ∧
      rule.shot^[count] text = (rule.matcher.cut text).filled rule.replacement.body := by
  induction count generalizing text with
  | zero =>
    have missing := List.length_eq_zero_iff.mp length
    constructor
    · intro i bound
      rw [Nat.le_zero.mp bound]
      exact length
    · rw [Cuts.filled, missing, Matcher.tail_of_missing missing]
      rfl
  | succ count ih =>
    generalize cut : rule.matcher.cut text = cuts at length
    obtain ⟨_ | ⟨hit, hits⟩, tail⟩ := cuts
    · simp at length
    · have after := cut_shot plain targets apart cut
      obtain ⟨counts, ends⟩ := ih (rule.shot text) (by simpa [after] using length)
      constructor
      · intro i bound
        cases i with
        | zero => simpa [cut] using length
        | succ i =>
          rw [Function.iterate_succ_apply, counts i (Nat.le_of_succ_le_succ bound)]
          omega
      · rw [Function.iterate_succ_apply, ends, after, Cuts.filled_behind, Cuts.filled_cons]

/-- Shot after shot takes the spans of a text one by one, and leaves what taking them all at once does. -/
theorem single_shots_refine_all (rule : Rule) (target text : Text) (ungated : rule.precondition = none)
    (replaces : rule.placement = .replace) (targets : rule.matcher.literalTarget? = some target)
    (apart : Text.Separate target rule.replacement.body) :
    let once : Rule := { rule with scope := .first }
    let found := (rule.matcher.cut text).hits.length
    (∀ i < found, (once.apply (rule.shot^[i] text)).2.status = .applied ∧
      (once.apply (rule.shot^[i] text)).2.occurrences = 1 ∧
      (once.apply (rule.shot^[i] text)).2.found = found - i) ∧
    rule.shot^[found] text = ({ rule with scope := .all }.apply text).1 ∧
    (once.apply (rule.shot^[found] text)).2.status = .noMatch ∧
    rule.shot^[found + 1] text = rule.shot^[found] text := by
  intro once found
  have plain : rule.IsPlain := ⟨ungated, replaces, Matcher.isLiteral_of_target targets⟩
  have first : once.IsPlain := ⟨plain.ungated, plain.replaces, plain.literal⟩
  have whole : IsPlain { rule with scope := .all } := ⟨plain.ungated, plain.replaces, plain.literal⟩
  obtain ⟨counts, ends⟩ := shots plain targets apart found text rfl
  have none : (once.matcher.cut (rule.shot^[found] text)).hits = [] := by
    have zero := counts found (Nat.le_refl _)
    rw [Nat.sub_self] at zero
    exact List.length_eq_zero_iff.mp zero
  have missed := apply_of_missing (first.isOpen _) none
  refine ⟨?_, ?_, ?_, ?_⟩
  · intro i below
    have left : (once.matcher.cut (rule.shot^[i] text)).hits.length = found - i :=
      counts i (Nat.le_of_lt below)
    have some : (once.matcher.cut (rule.shot^[i] text)).hits ≠ [] := by
      intro empty
      rw [empty, List.length_nil] at left
      omega
    rw [apply_of_found (first.isOpen _) some, left]
    refine ⟨rfl, ?_, rfl⟩
    show min 1 (found - i) = 1
    omega
  · rw [ends, whole.apply_all rfl]
  · rw [missed]
    rfl
  · rw [Function.iterate_succ_apply']
    show (once.apply _).1 = _
    rw [missed]

-- The last block is not closed, so two shots take all there is.
theorem single_shots_of_blocks :
    let rule : Rule := ⟨['d', 'r', 'o', 'p'], .delimited ['['] [']'], .text ['-'], .all, .replace, none, true⟩
    let text : Text := ['a', '[', 'b', ']', '[', ']', 'c', '[']
    rule.placement = .replace ∧ Text.Separate ['['] rule.replacement.body ∧
      rule.shot^[2] text = ({ rule with scope := .all }.apply text).1 ∧
      rule.shot^[2] text = ['a', '-', '-', 'c', '['] := by
  intro rule text
  have apart : Text.Separate ['['] rule.replacement.body := by decide
  have all : rule.shot^[2] text = ({ rule with scope := .all }.apply text).1 :=
    (single_shots_refine_all rule ['['] text rfl rfl rfl apart).2.1
  refine ⟨rfl, apart, all, ?_⟩
  rw [all]
  decide

end TextMigration.Rule
