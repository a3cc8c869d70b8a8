import TextMigration.Proofs.Checking.Accepted
import TextMigration.Proofs.Checking.Expected
import TextMigration.Proofs.Rewriting.Verdict
import TextMigration.Proofs.Running.Fold

/-!
What it means that a run succeeded, in terms of the texts alone: every required rule had, in the text that it
came to, what it is there for, and the last text has all that is expected of it and nothing that must be gone
(`isSuccess_run_iff`).
-/

namespace TextMigration

theorem Rule.isServed_iff {rule : Rule} {text : Text} :
    rule.IsServed text ↔
      (∃ needle, rule.precondition = some (.lacks needle) ∧ needle <:+: text) ∨
      ((∀ needle, rule.precondition = some (.contains needle) → needle <:+: text) ∧
        (∀ needle, rule.precondition = some (.lacks needle) → ¬ needle <:+: text) ∧
        ∃ hit ∈ (rule.matcher.cut text).hits, hit.span ≠ []) := by
  have opened : rule.isOpen text = true ↔
      (∀ needle, rule.precondition = some (.contains needle) → needle <:+: text) ∧
        (∀ needle, rule.precondition = some (.lacks needle) → ¬ needle <:+: text) := by
    rw [isOpen, Option.all_eq_true]
    constructor
    · intro holds
      exact ⟨fun needle gate => Precondition.holds_contains_iff.mp (holds _ gate),
        fun needle gate => Precondition.holds_lacks_iff.mp (holds _ gate)⟩
    · rintro ⟨there, missing⟩ (needle | needle) gate
      · exact Precondition.holds_contains_iff.mpr (there needle gate)
      · exact Precondition.holds_lacks_iff.mpr (missing needle gate)
  constructor
  · rintro (⟨needle, gate, present⟩ | ⟨holds, found⟩)
    · exact Or.inl ⟨needle, gate, present⟩
    · obtain ⟨there, missing⟩ := opened.mp holds
      obtain ⟨hit, member⟩ := List.exists_mem_of_ne_nil _ found
      exact Or.inr ⟨there, missing, hit, member, Matcher.span_nonempty rule.matcher text hit member⟩
  · rintro (⟨needle, gate, present⟩ | ⟨there, missing, hit, member, _⟩)
    · exact .guarded needle gate present
    · exact .taken (opened.mpr ⟨there, missing⟩) (List.ne_nil_of_mem member)

namespace RuleSet

variable {name : Text} {rules : List Rule} {expectations : List Expectation} {set : RuleSet}

/-- A run succeeds exactly when every required rule is served where it runs: its `unless` text is there, or its
gate is open and it finds a span that is not empty; and when the last text has every text that must be present
and none that must be absent. -/
theorem isSuccess_run_iff (accepted : build name rules expectations = .ok set) (document : Text) :
    let output := (set.run document).1
    (set.run document).2.isSuccess = true ↔
      (∀ before rule after, set.rules = before ++ rule :: after → rule.required = true →
        let buffer := (applyAll before document).1
        (∃ needle, rule.precondition = some (.lacks needle) ∧ needle <:+: buffer) ∨
        ((∀ needle, rule.precondition = some (.contains needle) → needle <:+: buffer) ∧
          (∀ needle, rule.precondition = some (.lacks needle) → ¬ needle <:+: buffer) ∧
          ∃ hit ∈ (rule.matcher.cut buffer).hits, hit.span ≠ [])) ∧
      (∀ needle, .present needle ∈ set.expectations → needle <:+: output) ∧
      (∀ needle, .absent needle ∈ set.expectations → ¬ needle <:+: output) := by
  intro output
  have telling := (acceptable_of_build accepted).telling
  obtain ⟨_, rfl⟩ := build_eq_ok_iff.mp accepted
  -- A required rule that is not served is a miss, and there is no other kind.
  have served : (∀ result ∈ (applyAll rules document).2, result.isRequiredMiss = false) ↔
      ∀ before rule after, rules = before ++ rule :: after → rule.required = true →
        rule.IsServed (applyAll before document).1 := by
    rw [forall_results_iff]
    refine forall_congr' fun before => forall_congr' fun rule => forall_congr' fun after => ?_
    refine imp_congr_right fun _ => ?_
    rw [← Bool.not_eq_true, Rule.isRequiredMiss_apply_iff, not_and, not_not]
  have met : (∀ expectation ∈ expectations, expectation.IsMet output) ↔
      (∀ needle, .present needle ∈ expectations → needle <:+: output) ∧
        ∀ needle, .absent needle ∈ expectations → ¬ needle <:+: output := by
    constructor
    · intro all
      exact ⟨fun needle member => all _ member, fun needle member => all _ member⟩
    · rintro ⟨there, gone⟩ (needle | needle) member
      · exact there needle member
      · exact gone needle member
  rw [Report.isSuccess_iff, run_violations, run_results, Expectation.check_eq_nil_iff telling, met, served,
    and_comm]
  simp only [Rule.isServed_iff]

def served : RuleSet :=
  ⟨[], none, [⟨['i'], .exact ['h'], .text ['g'], .first, .before, some (.lacks ['g']), true⟩,
      ⟨['b'], .delimited ['('] [')'], .text ['o'], .all, .replace, none, true⟩,
      ⟨['r'], .exact ['x'], .text ['y'], .all, .replace, some (.contains ['o']), true⟩,
      ⟨['n'], .exact ['z'], .text ['y'], .all, .replace, none, false⟩],
    [.present ['y', 'y'], .absent ['x']]⟩

theorem isSuccess_run_served :
    build served.name served.rules served.expectations = .ok served ∧
      (served.run ['g', '(', 'x', ')', 'x', 'y']).2.isSuccess = true ∧
      ['g'] <:+: (applyAll [] ['g', '(', 'x', ')', 'x', 'y']).1 ∧
      ['y', 'y'] <:+: (served.run ['g', '(', 'x', ')', 'x', 'y']).1 ∧
      ¬ ['x'] <:+: (served.run ['g', '(', 'x', ')', 'x', 'y']).1 := by
  have accepted : build served.name served.rules served.expectations = .ok served := by rfl
  have success : (served.run ['g', '(', 'x', ')', 'x', 'y']).2.isSuccess = true := by decide +kernel
  obtain ⟨required, there, gone⟩ := (isSuccess_run_iff accepted ['g', '(', 'x', ')', 'x', 'y']).mp success
  refine ⟨accepted, success, ?_, there _ (by simp [served]), gone _ (by simp [served])⟩
  rcases required [] _ _ rfl rfl with ⟨needle, gate, present⟩ | ⟨_, missing, _⟩
  · have same : ['g'] = needle := by simpa using gate
    rw [same]
    exact present
  · exact absurd (by decide) (missing ['g'] rfl)

end RuleSet

end TextMigration
