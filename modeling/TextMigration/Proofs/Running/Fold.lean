import TextMigration.Run
import TextMigration.Proofs.Rewriting.Applying

/-!
Rules one after another. The texts between them are what the rules before have left, so a list of rules
runs as its two parts do in turn, and rules that leave a text alone can be passed over.
-/

namespace TextMigration

namespace Report

variable {report : Report}

theorem isSuccess_iff : report.isSuccess = true ↔
    report.violations = [] ∧ ∀ result ∈ report.results, result.isRequiredMiss = false := by
  simp [isSuccess]

theorem alreadyMigrated_iff : report.alreadyMigrated = true ↔
    report.changed = false ∧ report.violations = [] ∧
      ∀ result ∈ report.results, result.isRequiredMiss = true → result.alreadyApplied = true := by
  simp only [alreadyMigrated, Bool.and_eq_true, Bool.not_eq_true', List.isEmpty_iff, List.all_eq_true,
    List.mem_filter, and_imp, and_assoc]

theorem totalOccurrences_eq_zero (none : ∀ result ∈ report.results, result.occurrences = 0) :
    report.totalOccurrences = 0 := by
  rw [totalOccurrences]
  generalize report.results = results at none
  have zero : results.foldr (fun result total => result.occurrences + total) 0 = 0 := by
    induction results with
    | nil => rfl
    | cons result results ih =>
      rw [List.foldr_cons, none result List.mem_cons_self,
        ih fun other member => none other (List.mem_cons_of_mem result member)]
  rw [zero, Nat.zero_mod]

end Report

namespace RuleSet

variable {rules : List Rule} {text : Text}

@[simp] theorem applyAll_nil (text : Text) : applyAll [] text = (text, []) := rfl

@[simp] theorem applyAll_cons (rule : Rule) (rules : List Rule) (text : Text) :
    applyAll (rule :: rules) text =
      ((applyAll rules (rule.apply text).1).1,
        (rule.apply text).2 :: (applyAll rules (rule.apply text).1).2) := rfl

theorem applyAll_append (early late : List Rule) (text : Text) :
    applyAll (early ++ late) text =
      ((applyAll late (applyAll early text).1).1,
        (applyAll early text).2 ++ (applyAll late (applyAll early text).1).2) := by
  induction early generalizing text with
  | nil => rfl
  | cons rule early ih => simp [ih]

theorem getElem?_applyAll (rules : List Rule) (text : Text) (place : Nat) :
    (applyAll rules text).2[place]? =
      rules[place]?.map fun rule => (rule.apply (applyAll (rules.take place) text).1).2 := by
  induction rules generalizing text place with
  | nil => rfl
  | cons first rules ih =>
    cases place with
    | zero => rfl
    | succ place => simp [ih]

theorem map_ruleId_applyAll (rules : List Rule) (text : Text) :
    (applyAll rules text).2.map Application.ruleId = rules.map Rule.id := by
  induction rules generalizing text with
  | nil => rfl
  | cons rule rules ih => rw [applyAll_cons, List.map_cons, ih, Rule.ruleId_apply, List.map_cons]

/-- Rules that are not applied can be left out: the other rules see the texts that they saw before. -/
theorem applyAll_filter {keep : Rule → Bool}
    (idle : ∀ pair ∈ rules.zip (applyAll rules text).2, keep pair.1 = false → pair.2.status ≠ .applied) :
    applyAll (rules.filter keep) text =
      ((applyAll rules text).1,
        ((rules.zip (applyAll rules text).2).filter fun pair => keep pair.1).map Prod.snd) := by
  induction rules generalizing text with
  | nil => rfl
  | cons rule rules ih =>
    rw [applyAll_cons, List.zip_cons_cons, List.forall_mem_cons] at idle
    obtain ⟨here, later⟩ := idle
    have others := ih later
    rw [applyAll_cons, List.zip_cons_cons, List.filter_cons, List.filter_cons]
    cases kept : keep rule with
    | true =>
      simp only [if_true, applyAll_cons, List.map_cons, others]
    | false =>
      have same : (rule.apply text).1 = text := (Rule.apply_of_idle (here kept)).1
      simp only [Bool.false_eq_true, if_false]
      rw [same] at others ⊢
      exact others

theorem applyAll_idle (idle : ∀ rule ∈ rules, (rule.apply text).1 = text) :
    applyAll rules text = (text, rules.map fun rule => (rule.apply text).2) := by
  induction rules with
  | nil => rfl
  | cons rule rules ih =>
    have others := ih fun other member => idle other (List.mem_cons_of_mem rule member)
    rw [applyAll_cons, idle rule List.mem_cons_self, others]
    rfl

theorem applyAll_invariant (holds : Text → Prop)
    (step : ∀ rule ∈ rules, ∀ text, holds text → holds (rule.apply text).1) (start : holds text) :
    holds (applyAll rules text).1 := by
  induction rules generalizing text with
  | nil => exact start
  | cons rule rules ih =>
    exact ih (fun other member => step other (List.mem_cons_of_mem rule member))
      (step rule List.mem_cons_self text start)

/-- Each rule is judged on the text that the rules before it left. -/
theorem forall_results_iff {holds : Application → Prop} :
    (∀ result ∈ (applyAll rules text).2, holds result) ↔
      ∀ before rule after, rules = before ++ rule :: after →
        holds (rule.apply (applyAll before text).1).2 := by
  induction rules generalizing text with
  | nil => simp
  | cons first rules ih =>
    rw [applyAll_cons, List.forall_mem_cons, ih]
    constructor
    · rintro ⟨here, later⟩ before rule after split
      cases before with
      | nil =>
        rw [List.nil_append, List.cons.injEq] at split
        rw [← split.1]
        exact here
      | cons other before =>
        rw [List.cons_append, List.cons.injEq] at split
        rw [← split.1]
        exact later before rule after split.2
    · intro all
      refine ⟨all [] first rules rfl, ?_⟩
      intro before rule after split
      exact all (first :: before) rule after (by rw [split, List.cons_append])

section Report

variable {set : RuleSet}

theorem run_text (set : RuleSet) (text : Text) : (set.run text).1 = (applyAll set.rules text).1 := rfl

theorem run_results (set : RuleSet) (text : Text) :
    (set.run text).2.results = (applyAll set.rules text).2 := rfl

theorem run_violations (set : RuleSet) (text : Text) :
    (set.run text).2.violations = Expectation.check (set.run text).1 set.expectations := rfl

theorem result?_run {before after : List Rule} {rule : Rule} (distinct : (set.rules.map Rule.id).Nodup)
    (split : set.rules = before ++ rule :: after) (text : Text) :
    (set.run text).2.result? rule.id = some (rule.apply (applyAll before text).1).2 := by
  have others : ∀ result ∈ (applyAll before text).2, (result.ruleId == rule.id) = false := by
    intro result member
    rw [split, List.map_append, List.map_cons] at distinct
    have unlike := (List.nodup_append.mp distinct).2.2 result.ruleId
      (map_ruleId_applyAll before text ▸ List.mem_map_of_mem member) rule.id List.mem_cons_self
    simpa using unlike
  rw [Report.result?, run_results, split, applyAll_append, applyAll_cons, List.find?_append,
    List.find?_eq_none.mpr (by simpa using others), Option.none_or, List.find?_cons, Rule.ruleId_apply]
  simp

-- A run that gives its text back is not taken for a change.
theorem run_unchanged (same : (set.run text).1 = text) : (set.run text).2.changed = false := by
  have digests : (set.run text).2.changed = (text.digest != (set.run text).1.digest) := rfl
  rw [digests, same]
  exact bne_self_eq_false _

end Report

end RuleSet

end TextMigration
