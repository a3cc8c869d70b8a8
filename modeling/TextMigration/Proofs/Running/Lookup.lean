import TextMigration.Proofs.Checking.Accepted
import TextMigration.Proofs.Running.Fold

/-!
Results by the ids of their rules. The ids of an accepted rule set are pairwise different, to the last blank,
and every rule leaves one result whatever became of it; so the result found under an id is that of the one rule
that has it (`result_under_id`).
-/

namespace TextMigration.RuleSet

variable {name : Text} {rules : List Rule} {expectations : List Expectation} {set : RuleSet}

theorem result?_at {place : Nat} {rule : Rule} (distinct : (set.rules.map Rule.id).Nodup)
    (here : set.rules[place]? = some rule) (text : Text) :
    (set.run text).2.result? rule.id = some (rule.apply (applyAll (set.rules.take place) text).1).2 := by
  obtain ⟨inside, same⟩ := List.getElem?_eq_some_iff.mp here
  have split : set.rules = set.rules.take place ++ rule :: set.rules.drop (place + 1) := by
    rw [← same, List.getElem_cons_drop, List.take_append_drop]
  exact result?_run distinct split text

theorem result?_eq_none_iff {id text : Text} :
    (set.run text).2.result? id = none ↔ id ∉ set.rules.map Rule.id := by
  have ids : (set.run text).2.results.map Application.ruleId = set.rules.map Rule.id :=
    map_ruleId_applyAll set.rules text
  rw [Report.result?, List.find?_eq_none, ← ids]
  constructor
  · intro none inside
    obtain ⟨result, member, same⟩ := List.mem_map.mp inside
    exact none result member (by simpa using same)
  · intro outside result member same
    exact outside (List.mem_map.mpr ⟨result, member, by simpa using same⟩)

/-- In the report of an accepted rule set there is one result for each rule. Under the id of a rule stands the
result at the place of the rule, which is that of the rule on what the rules before it left; and under an id
that no rule has, and only there, stands nothing. -/
theorem result_under_id (accepted : build name rules expectations = .ok set) (document : Text) :
    (set.run document).2.results.length = rules.length ∧
      (∀ (place : Nat) (rule : Rule), rules[place]? = some rule →
        (set.run document).2.result? rule.id = (set.run document).2.results[place]? ∧
          (set.run document).2.results[place]? =
            some (rule.apply (applyAll (rules.take place) document).1).2) ∧
      ∀ id, (set.run document).2.result? id = none ↔ ∀ rule ∈ rules, rule.id ≠ id := by
  have distinct := (acceptable_of_build accepted).distinct
  obtain ⟨_, rfl⟩ := build_eq_ok_iff.mp accepted
  refine ⟨?_, ?_, ?_⟩
  · have ids := congrArg List.length (map_ruleId_applyAll rules document)
    rw [run_results]
    simpa only [List.length_map] using ids
  · intro place rule here
    have stands : (applyAll rules document).2[place]? = _ := getElem?_applyAll rules document place
    rw [here] at stands
    refine ⟨?_, stands⟩
    rw [result?_at distinct here document]
    exact stands.symm
  · intro id
    rw [result?_eq_none_iff]
    simp

def spaced : List Rule :=
  [⟨['a'], .exact ['x'], .text ['y'], .all, .replace, none, true⟩,
    ⟨[' ', 'a'], .exact ['y'], .text ['z'], .first, .replace, none, true⟩,
    ⟨['a', ' '], .exact ['x'], .text ['w'], .all, .replace, some (.contains ['x']), false⟩]

-- The second rule finds what the first one has written, and the third nothing that is left.
theorem result_under_spaced_id :
    ∃ set, build [] spaced [] = .ok set ∧
      ((set.run ['x', 'x']).2.result? [' ', 'a']).map Application.found = some 2 ∧
      ((set.run ['x', 'x']).2.result? ['a', ' ']).map Application.matched = some false ∧
      (set.run ['x', 'x']).2.result? ['a', ' ', ' '] = none := by
  have accepted : build [] spaced [] = .ok ⟨[], none, spaced, []⟩ := rfl
  obtain ⟨_, under, nothing⟩ := result_under_id accepted ['x', 'x']
  obtain ⟨second, there⟩ := under 1 _ rfl
  obtain ⟨third, behind⟩ := under 2 _ rfl
  refine ⟨_, accepted, ?_, ?_, (nothing _).mpr (by decide)⟩
  · rw [second, there]
    decide +kernel
  · rw [third, behind]
    decide +kernel

end TextMigration.RuleSet
