import TextMigration.Proofs.Checking.Accepted
import TextMigration.Proofs.Running.Fold

/-!
Rule sets in parts. A run of two lists of rules, one behind the other, is a run of the first and then a run
of the second on what the first left; and rules that were not applied can be taken out of a set without the
others noticing (`run_composes`). Both make sense of the parts as rule sets, which they are when the whole is.
-/

namespace TextMigration.RuleSet

variable {name : Text} {early late : List Rule} {expectations : List Expectation} {set : RuleSet}

-- What is violated is read off the last text alone.
theorem violations_of_same_output {other : RuleSet} {text start : Text}
    (expected : other.expectations = set.expectations) (same : (other.run start).1 = (set.run text).1) :
    (other.run start).2.violations = (set.run text).2.violations := by
  rw [run_violations, run_violations, expected, same]

theorem build_append (accepted : build name (early ++ late) expectations = .ok set)
    (first : early ≠ []) (second : late ≠ []) :
    build name early expectations = .ok ⟨name, none, early, expectations⟩ ∧
      build name late expectations = .ok ⟨name, none, late, expectations⟩ := by
  have acceptable := acceptable_of_build accepted
  constructor
  · exact (acceptable.sublist (List.sublist_append_left early late) first).build name
  · exact (acceptable.sublist (List.sublist_append_right early late) second).build name

/-- The parts of an accepted list of rules are accepted, and the whole list runs as they do in turn: the last
text is what the second part makes of what the first part left, the results are theirs, one for each rule and
in order, and any run that ends in the same text violates the same expectations. And of an accepted list of
rules, those that were not applied may be left out: the last text and the results of the others stay. -/
theorem run_composes :
    (∀ (name : Text) (early late : List Rule) (expectations : List Expectation) (whole : RuleSet),
      build name (early ++ late) expectations = .ok whole → early ≠ [] → late ≠ [] →
      ∃ first second, build name early expectations = .ok first ∧ build name late expectations = .ok second ∧
        ∀ document,
          let middle := (first.run document).1
          (whole.run document).1 = (second.run middle).1 ∧
          (whole.run document).2.results = (first.run document).2.results ++ (second.run middle).2.results ∧
          (first.run document).2.results.map Application.ruleId = early.map Rule.id ∧
          (second.run middle).2.results.map Application.ruleId = late.map Rule.id ∧
          ∀ (other : RuleSet) (start : Text), other.expectations = expectations →
            (other.run start).1 = (whole.run document).1 →
            (other.run start).2.violations = (whole.run document).2.violations) ∧
    ∀ (name : Text) (rules : List Rule) (expectations : List Expectation) (set : RuleSet),
      build name rules expectations = .ok set → ∀ (document : Text) (keep : Rule → Bool),
      let told := rules.zip (set.run document).2.results
      (∀ pair ∈ told, keep pair.1 = false → pair.2.status ≠ .applied) → rules.filter keep ≠ [] →
      ∃ fewer, build name (rules.filter keep) expectations = .ok fewer ∧
        (fewer.run document).1 = (set.run document).1 ∧
        (fewer.run document).2.results = (told.filter fun pair => keep pair.1).map Prod.snd := by
  constructor
  · intro name early late expectations whole accepted some others
    obtain ⟨first, second⟩ := build_append accepted some others
    obtain ⟨_, rfl⟩ := build_eq_ok_iff.mp accepted
    refine ⟨_, _, first, second, ?_⟩
    intro document middle
    have parts := applyAll_append early late document
    refine ⟨?_, ?_, ?_, ?_, ?_⟩
    · rw [run_text, parts]
      rfl
    · rw [run_results, parts]
      rfl
    · exact map_ruleId_applyAll early document
    · exact map_ruleId_applyAll late middle
    · intro other start expected same
      exact violations_of_same_output expected same
  · intro name rules expectations set accepted document keep told idle some
    have fewer := (acceptable_of_build accepted).sublist List.filter_sublist some
    obtain ⟨_, rfl⟩ := build_eq_ok_iff.mp accepted
    have kept : applyAll (rules.filter keep) document = _ := applyAll_filter idle
    refine ⟨_, fewer.build name, ?_, ?_⟩
    · rw [run_text, kept]
      rfl
    · rw [run_results, kept]
      rfl

def mixed : List Rule × List Rule :=
  ([⟨['a'], .exact ['a'], .text ['b'], .all, .replace, none, true⟩,
      ⟨['z'], .exact ['z'], .text ['y'], .all, .replace, none, true⟩],
    [⟨['w'], .exact ['b'], .text ['c'], .all, .replace, some (.contains ['z']), true⟩,
      ⟨['u'], .exact ['b'], .text ['d'], .all, .replace, some (.lacks ['b']), true⟩,
      ⟨['b'], .exact ['b'], .text ['e'], .first, .replace, none, true⟩])

theorem run_composes_mixed :
    let rules := mixed.1 ++ mixed.2
    ∃ whole first second fewer,
      build [] rules [.absent ['b']] = .ok whole ∧ build [] mixed.1 [.absent ['b']] = .ok first ∧
      build [] mixed.2 [.absent ['b']] = .ok second ∧
      build [] (rules.filter fun rule => rule.id = ['a'] ∨ rule.id = ['b']) [.absent ['b']] = .ok fewer ∧
      (whole.run ['a', 'b']).1 = ['e', 'b'] ∧ (second.run (first.run ['a', 'b']).1).1 = ['e', 'b'] ∧
      (fewer.run ['a', 'b']).1 = ['e', 'b'] ∧
      (fewer.run ['a', 'b']).2.results.map Application.found = [1, 2] := by
  intro rules
  let whole : RuleSet := ⟨[], none, rules, [.absent ['b']]⟩
  have accepted : build [] rules [.absent ['b']] = .ok whole := by rfl
  obtain ⟨first, second, early, late, composes⟩ :=
    run_composes.1 [] mixed.1 mixed.2 [.absent ['b']] whole accepted (by decide) (by decide)
  obtain ⟨fewer, kept, output, results⟩ :=
    run_composes.2 [] rules [.absent ['b']] whole accepted ['a', 'b']
      (fun rule => rule.id = ['a'] ∨ rule.id = ['b']) (by decide +kernel) (by decide)
  have ends : (whole.run ['a', 'b']).1 = ['e', 'b'] := by decide
  refine ⟨whole, first, second, fewer, accepted, early, late, kept, ends, ?_, ?_, ?_⟩
  · rw [← (composes ['a', 'b']).1, ends]
  · rw [output, ends]
  · rw [results]
    decide +kernel

end TextMigration.RuleSet
