import TextMigration.Proofs.Checking.Accepted
import TextMigration.Proofs.Checking.Expected
import TextMigration.Proofs.Running.Fold

/-!
When a rule is excused from its work: exactly when it is guarded by a text that counts at least once in what
the rules before it left, or by the empty text (`excused_iff_guarded`). The empty text is in every text and is
never counted: a rule that it guards is always excused, and no check of the rule set refuses such a guard
(`excused_by_nothing`).
-/

namespace TextMigration

theorem Rule.excused_iff {rule : Rule} {text reason : Text} :
    (rule.apply text).2.status = .skipped reason true ↔
      ∃ needle, rule.precondition = some (.lacks needle) ∧ needle <:+: text ∧
        reason = (Precondition.lacks needle).display := by
  constructor
  · intro excused
    rcases rule.apply_cases text with ⟨gate, here, fails, _, skipped⟩ | ⟨_, _, missed⟩ | ⟨_, _, taken⟩
    · rw [skipped] at excused
      simp only [Status.skipped.injEq] at excused
      obtain ⟨same, guard⟩ := excused
      cases gate with
      | contains needle => simp [Precondition.isGuard] at guard
      | lacks needle =>
        refine ⟨needle, here, ?_, same.symm⟩
        by_contra missing
        simp [Precondition.holds_lacks_iff.mpr missing] at fails
    · rw [missed] at excused
      simp [blankResult] at excused
    · rw [taken] at excused
      simp at excused
  · rintro ⟨needle, gate, there, rfl⟩
    rw [apply_of_guarded gate there]

namespace RuleSet

variable {set : RuleSet}

/-- In every run, a rule that is excused is guarded by a text that counts at least once where the rule came to
it. -/
def ExcusesRightly (set : RuleSet) : Prop :=
  ∀ (document : Text) (place : Nat) (rule : Rule) (result : Application) (reason : Text),
    set.rules[place]? = some rule → (set.run document).2.results[place]? = some result →
    result.status = .skipped reason true →
    ∃ needle, rule.precondition = some (.lacks needle) ∧
      1 ≤ (applyAll (set.rules.take place) document).1.count needle

-- The result at the place of a rule is that of the rule on what was left to it.
theorem result_eq_apply {document : Text} {place : Nat} {rule : Rule} {result : Application}
    (here : set.rules[place]? = some rule) (there : (set.run document).2.results[place]? = some result) :
    result = (rule.apply (applyAll (set.rules.take place) document).1).2 := by
  rw [run_results, getElem?_applyAll, here] at there
  exact (Option.some.inj there).symm

theorem excused_result_iff {document reason : Text} {place : Nat} {rule : Rule} {result : Application}
    (here : set.rules[place]? = some rule) (there : (set.run document).2.results[place]? = some result) :
    result.status = .skipped reason true ↔
      ∃ needle, rule.precondition = some (.lacks needle) ∧ reason = (Precondition.lacks needle).display ∧
        (1 ≤ (applyAll (set.rules.take place) document).1.count needle ∨ needle = []) := by
  rw [result_eq_apply here there, Rule.excused_iff]
  simp only [Text.infix_iff_counted]
  exact exists_congr fun needle => and_congr_right fun _ => and_comm

/-- In a run of any rule set, a rule is excused exactly when it has a guard and the guarded text counts at least
once in what the rules before it left, or is empty; the reason that is given names that text. So all excuses of
all runs of a rule set are right exactly when no rule of it is guarded by the empty text. -/
theorem excused_iff_guarded (set : RuleSet) :
    (∀ (document : Text) (place : Nat) (rule : Rule) (result : Application) (reason : Text),
      set.rules[place]? = some rule → (set.run document).2.results[place]? = some result →
      (result.status = .skipped reason true ↔
        ∃ needle, rule.precondition = some (.lacks needle) ∧ reason = (Precondition.lacks needle).display ∧
          (1 ≤ (applyAll (set.rules.take place) document).1.count needle ∨ needle = []))) ∧
    (set.ExcusesRightly ↔ ∀ rule ∈ set.rules, rule.precondition ≠ some (.lacks [])) := by
  refine ⟨fun document place rule result reason here there => excused_result_iff here there, ?_, ?_⟩
  · -- A rule that the empty text guards is excused in every run, and its text is never counted.
    intro rightly rule member empty
    obtain ⟨place, here⟩ := List.mem_iff_getElem?.mp member
    have there : (set.run []).2.results[place]? = _ := getElem?_applyAll set.rules [] place
    rw [here] at there
    have always := (excused_result_iff here there).mpr ⟨[], empty, rfl, Or.inr rfl⟩
    obtain ⟨needle, gate, counted⟩ := rightly [] place rule _ _ here there always
    rw [empty, Option.some.injEq, Precondition.lacks.injEq] at gate
    rw [← gate, Text.count_nil] at counted
    exact absurd counted (by decide)
  · intro guarded document place rule result reason here there skipped
    obtain ⟨needle, gate, _, counted | empty⟩ := (excused_result_iff here there).mp skipped
    · exact ⟨needle, gate, counted⟩
    · rw [empty] at gate
      exact absurd gate (guarded rule (List.mem_of_getElem? here))

def headed : RuleSet :=
  ⟨['h'], none, [⟨['i'], .exact ['p'], .text ['h'], .first, .before, some (.lacks ['h']), true⟩,
    ⟨['r'], .exact ['q'], .text ['p'], .all, .replace, none, false⟩], []⟩

-- The heading is there already; a document without it is given one and the rule is applied.
theorem excused_iff_guarded_headed :
    build headed.name headed.rules headed.expectations = .ok headed ∧ headed.ExcusesRightly ∧
      (∃ result, (headed.run ['h', 'p']).2.results[0]? = some result ∧
        result.status = .skipped (Precondition.lacks ['h']).display true) ∧
      ∃ result, (headed.run ['p']).2.results[0]? = some result ∧
        ∀ reason, result.status ≠ .skipped reason true := by
  obtain ⟨excused, rightly⟩ := excused_iff_guarded headed
  refine ⟨rfl, rightly.mpr (by decide), ⟨_, rfl, ?_⟩, ⟨_, rfl, ?_⟩⟩
  · exact (excused ['h', 'p'] 0 _ _ _ rfl rfl).mpr ⟨['h'], rfl, rfl, Or.inl (by decide)⟩
  · intro reason skipped
    obtain ⟨needle, gate, _, counted⟩ := (excused ['p'] 0 _ _ reason rfl rfl).mp skipped
    have same : ['h'] = needle := by simpa [headed] using gate
    rw [← same] at counted
    exact absurd counted (by decide)

def waived : RuleSet :=
  ⟨['w'], none, [⟨['a'], .exact ['a'], .text ['b'], .all, .replace, some (.lacks []), true⟩], []⟩

/-- A guard of the empty text is accepted, and excuses a required rule whose work is there to be done: the run is
a success and changes nothing. -/
theorem excused_by_nothing :
    build waived.name waived.rules waived.expectations = .ok waived ∧
      (waived.run ['a']).2.isSuccess = true ∧ (waived.run ['a']).1 = ['a'] ∧ ¬ waived.ExcusesRightly := by
  refine ⟨rfl, by decide +kernel, by decide, ?_⟩
  intro rightly
  have ran : (waived.run ['a']).2.results[0]? = some _ := getElem?_applyAll waived.rules ['a'] 0
  obtain ⟨needle, gate, counted⟩ := rightly ['a'] 0 _ _ (Precondition.lacks []).display rfl ran rfl
  have same : [] = needle := by simpa [waived] using gate
  rw [← same] at counted
  exact absurd counted (by decide)

end RuleSet

end TextMigration
