import Mathlib.Tactic.TFAE
import TextMigration.Proofs.Checking.Expected
import TextMigration.Proofs.Packing.Needles
import TextMigration.Proofs.Rewriting.SelfMatch

/-!
Whether a text is in a document. Gates look for it, expectations count it, and a matcher cuts the document at
it; all of them say what the infix relation says (`presence_tests_agree`). What is checked gives the
expectations that are not met, each with the most occurrences of its needle that there can be with nothing in
common (`violations_exact`).
-/

namespace TextMigration

theorem Text.count_isGreatest {needle : Text} (nonempty : needle ≠ []) (text : Text) :
    IsGreatest (packings fun range => text.slice? range.1 range.2 = some needle) (text.count needle) := by
  have nonblank : (Matcher.exact needle).isBlank = false := by simpa [Matcher.isBlank] using nonempty
  have greedy := Matcher.ranges_greedy rfl nonblank text
  have greatest := greedy.isGreatest (Matcher.ranges_ascending (.exact needle) text)
  have pieces : (Matcher.exact needle).IsPiece text = fun range => text.slice? range.1 range.2 = some needle :=
    funext fun range => propext Matcher.isPiece_exact_iff
  rwa [pieces, Matcher.length_ranges, ← Matcher.count_eq_length_hits] at greatest

namespace Expectation

instance (text : Text) : DecidablePred (IsMet text)
  | present needle => inferInstanceAs (Decidable (needle <:+: text))
  | absent needle => inferInstanceAs (Decidable (¬ needle <:+: text))

variable {text needle : Text} {expectation : Expectation} {expectations : List Expectation}

theorem violation?_eq_some (nonempty : expectation.needle ≠ []) (unmet : ¬ expectation.IsMet text) :
    violation? text expectation = some ⟨expectation, text.count expectation.needle⟩ := by
  have violated : violation? text expectation ≠ none := mt (violation?_eq_none_iff nonempty).mp unmet
  rw [violation?] at violated ⊢
  split
  · rfl
  · next fine => simp [fine] at violated

theorem check_append (text : Text) (front back : List Expectation) :
    check text (front ++ back) = check text front ++ check text back :=
  List.filterMap_append

theorem check_eq_unmet (nonempty : ∀ expectation ∈ expectations, expectation.needle ≠ []) (text : Text) :
    check text expectations = (expectations.filter fun expectation => ¬ expectation.IsMet text).map
      fun expectation => ⟨expectation, text.count expectation.needle⟩ := by
  induction expectations with
  | nil => rfl
  | cons expectation rest ih =>
    obtain ⟨needed, others⟩ := List.forall_mem_cons.mp nonempty
    have tail : rest.filterMap (violation? text) = _ := ih others
    by_cases met : expectation.IsMet text
    · have none := (violation?_eq_none_iff needed).mpr met
      simpa [check, List.filterMap_cons, none, List.filter_cons, met] using tail
    · have some := violation?_eq_some needed met
      simpa [check, List.filterMap_cons, some, List.filter_cons, met] using tail

theorem presence_tests_agree (nonempty : needle ≠ []) (text : Text) :
    List.TFAE [needle <:+: text, (Precondition.contains needle).holds text = true,
      (Precondition.lacks needle).holds text = false, (Matcher.exact needle).isMatch text = true,
      check text [present needle] = []] := by
  tfae_have 2 ↔ 1 := Precondition.holds_contains_iff
  tfae_have 3 ↔ 1 := by
    rw [← Bool.not_eq_true, Precondition.holds_lacks_iff, not_not]
  tfae_have 4 ↔ 1 := by
    rw [Matcher.isMatch_exact_iff]
    exact and_iff_right nonempty
  tfae_have 5 ↔ 1 := by
    have named : ∀ expectation ∈ [present needle], expectation.needle ≠ [] :=
      List.forall_mem_singleton.mpr nonempty
    rw [check_eq_nil_iff named]
    simp [IsMet]
  tfae_finish

/-- For expectations with needles: those that are not met are told, in the order they stand in and as often
as they stand there, each with the largest number of occurrences of its needle that have nothing in common.
Lists of expectations can be checked one after the other. And a text that is not empty is in a document when
a gate finds it there, when a gate against it is closed, when a matcher finds it, and when expecting it is no
violation. -/
theorem violations_exact (nonempty : ∀ expectation ∈ expectations, expectation.needle ≠ []) (text : Text) :
    (check text expectations).map Violation.expectation =
        (expectations.filter fun expectation => ¬ expectation.IsMet text) ∧
      (∀ violation ∈ check text expectations,
        IsGreatest (packings fun range => text.slice? range.1 range.2 = some violation.expectation.needle)
          violation.occurrences) ∧
      (∀ front back, check text (front ++ back) = check text front ++ check text back) ∧
      ∀ needle ≠ [], List.TFAE [needle <:+: text, (Precondition.contains needle).holds text = true,
        (Precondition.lacks needle).holds text = false, (Matcher.exact needle).isMatch text = true,
        check text [present needle] = []] := by
  refine ⟨?_, ?_, check_append text, fun needle some => presence_tests_agree some text⟩
  · simp [check_eq_unmet nonempty, Function.comp_def]
  · intro violation member
    rw [check_eq_unmet nonempty] at member
    obtain ⟨expectation, unmet, rfl⟩ := List.mem_map.mp member
    exact Text.count_isGreatest (nonempty expectation (List.mem_of_mem_filter unmet)) text

/-- An unwanted needle that overlaps itself is told twice, with the two of its three occurrences that have
nothing in common; one at the end of the text is found. -/
theorem violations_of_bordered :
    let text := ['a', 'b', 'a', 'b', 'a', 'b', 'a']
    let expectations := [absent ['a', 'b', 'a'], present ['b', 'a'], present ['b', 'b'], absent ['a', 'b', 'a']]
    (∀ expectation ∈ expectations, expectation.needle ≠ []) ∧
      (check text expectations).map Violation.expectation =
        [absent ['a', 'b', 'a'], present ['b', 'b'], absent ['a', 'b', 'a']] ∧
      IsGreatest (packings fun range => Text.slice? text range.1 range.2 = some ['a', 'b', 'a']) 2 := by
  intro text expectations
  have nonempty : ∀ expectation ∈ expectations, expectation.needle ≠ [] := by decide
  obtain ⟨unmet, greatest, _⟩ := violations_exact nonempty text
  have twice : ⟨absent ['a', 'b', 'a'], 2⟩ ∈ check text expectations := by decide
  exact ⟨nonempty, unmet, greatest _ twice⟩

end Expectation

end TextMigration
