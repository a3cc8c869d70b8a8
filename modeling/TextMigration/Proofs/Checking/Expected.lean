import TextMigration.Expectation
import TextMigration.Proofs.Matching.Anchors

/-!
What expectations say of a text. An expectation with a needle is met exactly when it gives no violation; an
empty needle is in every text, but is never counted.
-/

namespace TextMigration

theorem Text.count_eq_zero_iff {text needle : Text} (nonempty : needle ≠ []) :
    text.count needle = 0 ↔ ¬ needle <:+: text := by
  have nonblank : (Matcher.exact needle).isBlank = false := by simpa [Matcher.isBlank] using nonempty
  rw [Matcher.count_eq_length_hits, List.length_eq_zero_iff, Matcher.hits_eq_nil_iff rfl nonblank]
  exact not_congr inOrder_singleton

@[simp] theorem Text.count_nil (text : Text) : text.count [] = 0 := rfl

theorem Text.infix_iff_counted {text needle : Text} :
    needle <:+: text ↔ 1 ≤ text.count needle ∨ needle = [] := by
  by_cases empty : needle = []
  · simp [empty]
  · have counted : text.count needle = 0 ↔ _ := count_eq_zero_iff empty
    rw [← not_iff_not, ← counted]
    simp [empty]

namespace Expectation

def IsMet (text : Text) : Expectation → Prop
  | present needle => needle <:+: text
  | absent needle => ¬ needle <:+: text

variable {text : Text} {expectation : Expectation} {expectations : List Expectation}

theorem violation?_eq_none_iff (nonempty : expectation.needle ≠ []) :
    violation? text expectation = none ↔ expectation.IsMet text := by
  cases expectation with
  | present needle =>
    have counted : text.count needle = 0 ↔ _ := Text.count_eq_zero_iff nonempty
    by_cases inside : needle <:+: text
    · simp [violation?, fails, IsMet, Expectation.needle, inside, counted]
    · simp [violation?, fails, IsMet, Expectation.needle, inside, counted]
  | absent needle =>
    have counted : text.count needle = 0 ↔ _ := Text.count_eq_zero_iff nonempty
    by_cases inside : needle <:+: text
    · simp [violation?, fails, IsMet, Expectation.needle, inside, counted]
    · simp [violation?, fails, IsMet, Expectation.needle, inside, counted]

theorem check_eq_nil_iff (nonempty : ∀ expectation ∈ expectations, expectation.needle ≠ []) :
    check text expectations = [] ↔ ∀ expectation ∈ expectations, expectation.IsMet text := by
  rw [check, List.filterMap_eq_nil_iff]
  exact forall₂_congr fun expectation member => violation?_eq_none_iff (nonempty expectation member)

-- What is violated is an expectation that is not met.
theorem ne_of_mem_check (nonempty : expectation.needle ≠ []) (met : expectation.IsMet text) :
    ∀ violation ∈ check text expectations, violation.expectation ≠ expectation := by
  intro violation member same
  obtain ⟨other, _, made⟩ := List.mem_filterMap.mp member
  have told : violation.expectation = other := by
    rw [violation?] at made
    split at made
    · rw [← Option.some.inj made]
    · simp at made
  rw [← told, same, (violation?_eq_none_iff nonempty).mpr met] at made
  simp at made

end Expectation

end TextMigration
