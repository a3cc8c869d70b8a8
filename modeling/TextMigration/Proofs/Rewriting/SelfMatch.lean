import TextMigration.Proofs.Rewriting.Applying
import TextMigration.Proofs.Rewriting.Undoubling
import TextMigration.Proofs.Search.Language

/-!
When a rule counts as one that might take its own output again: nothing guards it, and it inserts beside its
spans or its matcher catches the replacement as it is written (`rematchesOwnOutput_iff`). A matcher that does not
catch a replacement finds nothing in it (`isMatch_of_uncaught`).
-/

namespace TextMigration

namespace Matcher

variable {matcher : Matcher} {p : Pattern} {needle target text : Text} {replacement : Replacement}

theorem isMatch_iff_first? : matcher.isMatch text = true ↔ (matcher.first? none text).isSome = true := by
  rw [isMatch, Bool.not_eq_true', ← Bool.not_eq_true, List.isEmpty_iff, hits_eq_nil_iff_first?]
  simp [Option.isSome_iff_ne_none]

theorem isMatch_exact_iff : (exact needle).isMatch text = true ↔ needle ≠ [] ∧ needle <:+: text := by
  by_cases empty : needle = []
  · simp [isMatch_iff_first?, first?, empty]
  · have nonblank : (exact needle).isBlank = false := by simpa [isBlank] using empty
    rw [isMatch, Bool.not_eq_true', ← Bool.not_eq_true, List.isEmpty_iff, hits_eq_nil_iff rfl nonblank, not_not]
    simp [anchors, Text.inOrder_singleton, empty]

theorem isMatch_pattern_iff : (pattern p).isMatch text = true ↔ p.TakesIn text := by
  rw [isMatch_iff_first?, first?, Option.isSome_map, Pattern.first?_isSome_iff]

theorem infix_of_isMatch (targets : matcher.literalTarget? = some target) (found : matcher.isMatch text = true) :
    target <:+: text := by
  obtain ⟨⟨hit, rest⟩, first⟩ := Option.isSome_iff_exists.mp (isMatch_iff_first?.mp found)
  have begins := (first?_target targets first).1
  have pieces := (first?_pieces first).1
  exact begins.isInfix.trans ⟨hit.gap, rest, pieces.symm⟩

/-- The matcher finds the replacement as it is written, or nobody can tell what will be found: a start anchor may
have its end behind the replacement, and a reference stands for a part of the match. -/
def Catches : Matcher → Replacement → Prop
  | exact needle, replacement => needle ≠ [] ∧ needle <:+: replacement.body
  | delimited start _, replacement => start <:+: replacement.body
  | pattern p, .text template => Pattern.Template.HasReference template ∨ p.TakesIn template
  | pattern p, .fragment block => p.TakesIn block.body

theorem isMatch_of_uncaught (uncaught : ¬ matcher.Catches replacement) :
    matcher.isMatch replacement.body = false := by
  rw [← Bool.not_eq_true]
  intro found
  apply uncaught
  cases matcher with
  | exact needle => exact isMatch_exact_iff.mp found
  | delimited start stop => exact infix_of_isMatch rfl found
  | pattern p =>
    cases replacement with
    | text template => exact Or.inr (isMatch_pattern_iff.mp found)
    | fragment block => exact isMatch_pattern_iff.mp found

end Matcher

theorem Precondition.any_isGuard_iff {gate : Option Precondition} :
    gate.any isGuard = true ↔ ∃ needle, gate = some (.lacks needle) := by
  rcases gate with _ | _ | needle <;> simp [isGuard]

namespace Rule

variable {rule : Rule}

theorem rematchesOwnOutput_iff : rule.rematchesOwnOutput = true ↔
    (∀ needle, rule.precondition ≠ some (.lacks needle)) ∧
      (rule.placement ≠ .replace ∨ rule.matcher.Catches rule.replacement) := by
  rw [rematchesOwnOutput, ← not_exists, ← Precondition.any_isGuard_iff]
  by_cases guarded : rule.precondition.any Precondition.isGuard = true
  · simp [guarded]
  · by_cases replaces : rule.placement = .replace
    · rw [Bool.not_eq_true] at guarded
      simp only [guarded, replaces, ne_eq, Bool.false_eq_true, not_true_eq_false, not_false_eq_true, if_false,
        true_and, false_or]
      cases rule.matcher with
      | exact needle => exact Matcher.isMatch_exact_iff
      | delimited start stop => exact Text.contains_iff_infix
      | pattern p =>
        cases rule.replacement with
        | text template =>
          rw [Bool.or_eq_true, Pattern.Template.refersToGroups_iff, Matcher.isMatch_pattern_iff]
          rfl
        | fragment block => exact Matcher.isMatch_pattern_iff
    · simp [guarded, replaces]

theorem kept_iff : rule.rematchesOwnOutput = false ↔
    ((∀ needle, rule.precondition ≠ some (.lacks needle)) →
      rule.placement = .replace ∧ ¬ rule.matcher.Catches rule.replacement) := by
  rw [← Bool.not_eq_true, rematchesOwnOutput_iff, not_and]
  simp

end Rule

end TextMigration
