import TextMigration.Proofs.Checking.Accepted
import TextMigration.Proofs.Running.Fold
import TextMigration.Proofs.Rewriting.Rest

/-!
Running an accepted rule set on its own output. That no rule takes its own replacement is not enough for the
second run to change nothing: a replacement and the text beside it can make a new span, as can a later rule.
`rerun_eq_iff` says when the output comes back: every rule is at rest on it, or what the first restless rule
changes is put back by the rules after it.
-/

namespace TextMigration.RuleSet

variable {rules : List Rule} {text : Text}

-- Up to the first restless rule the text is the same, so each rule there is judged by that text.
theorem applyAll_eq_self_iff (clean : ∀ rule ∈ rules, matcherIssues rule = []) :
    (applyAll rules text).1 = text ↔
      (∀ rule ∈ rules, rule.AtRest text) ∨
      ∃ before rule after, rules = before ++ rule :: after ∧ (∀ earlier ∈ before, earlier.AtRest text) ∧
        (rule.apply text).1 ≠ text ∧ (applyAll after (rule.apply text).1).1 = text := by
  constructor
  · intro same
    induction rules with
    | nil =>
      refine Or.inl ?_
      intro rule member
      simp at member
    | cons first rules ih =>
      obtain ⟨nonblank, kept⟩ := matcherIssues_eq_nil_iff.mp (clean first List.mem_cons_self)
      by_cases unchanged : (first.apply text).1 = text
      · have rest := (Rule.apply_eq_self_iff nonblank kept).mp unchanged
        rw [applyAll_cons, unchanged] at same
        rcases ih (fun rule member => clean rule (List.mem_cons_of_mem first member)) same with
          others | ⟨before, rule, after, split, idle, changed, back⟩
        · exact Or.inl (List.forall_mem_cons.mpr ⟨rest, others⟩)
        · refine Or.inr ⟨first :: before, rule, after, ?_, List.forall_mem_cons.mpr ⟨rest, idle⟩, changed, back⟩
          rw [split]
          rfl
      · refine Or.inr ⟨[], first, rules, rfl, ?_, unchanged, same⟩
        intro rule member
        simp at member
  · have idle (early : List Rule) (inside : ∀ rule ∈ early, rule ∈ rules)
        (rest : ∀ rule ∈ early, rule.AtRest text) : (applyAll early text).1 = text := by
      rw [applyAll_idle]
      intro rule member
      obtain ⟨nonblank, kept⟩ := matcherIssues_eq_nil_iff.mp (clean rule (inside rule member))
      exact (Rule.apply_eq_self_iff nonblank kept).mpr (rest rule member)
    rintro (rest | ⟨before, rule, after, split, rest, _, back⟩)
    · exact idle rules (fun _ member => member) rest
    · have early := idle before (fun rule member => by simp [split, member]) rest
      rw [split, applyAll_append, early]
      exact back

theorem length_applyAll_le (shorten : ∀ rule ∈ rules, rule.Shortens) (text : Text) :
    (applyAll rules text).1.length ≤ text.length := by
  apply applyAll_invariant fun later => later.length ≤ text.length
  · intro rule member later bound
    exact Nat.le_trans ((shorten rule member).length_le later) bound
  · exact Nat.le_refl _

/-- The second run gives the output back when every rule is at rest on it, and otherwise only when later rules
put back what the first restless one changes. Rules that shorten cannot. -/
theorem rerun_eq_iff {name : Text} {expectations : List Expectation} {set : RuleSet}
    (accepted : build name rules expectations = .ok set) (document : Text) :
    let output := (set.run document).1
    ((set.run output).1 = output ↔
      (∀ rule ∈ set.rules, rule.AtRest output) ∨
      ∃ before rule after, set.rules = before ++ rule :: after ∧
        (∀ earlier ∈ before, earlier.AtRest output) ∧
        (rule.apply output).1 ≠ output ∧ (applyAll after (rule.apply output).1).1 = output) ∧
    ((∀ rule ∈ set.rules, rule.Shortens) →
      ((set.run output).1 = output ↔ ∀ rule ∈ set.rules, rule.AtRest output)) := by
  intro output
  have clean := matcherIssues_of_build accepted
  have exactly : (set.run output).1 = output ↔ _ := applyAll_eq_self_iff clean
  refine ⟨exactly, ?_⟩
  intro shorten
  rw [exactly]
  constructor
  · rintro (rest | ⟨before, rule, after, split, _, changed, back⟩)
    · exact rest
    · have member : rule ∈ set.rules := by simp [split]
      have restless : ¬ rule.AtRest output := by
        obtain ⟨nonblank, kept⟩ := matcherIssues_eq_nil_iff.mp (clean rule member)
        rw [← Rule.apply_eq_self_iff nonblank kept]
        exact changed
      have shorter := (shorten rule member).length_lt
        (matcherIssues_eq_nil_iff.mp (clean rule member)).1 restless
      have others : ∀ other ∈ after, other.Shortens :=
        fun other inside => shorten other (by simp [split, inside])
      have later := length_applyAll_le others (rule.apply output).1
      rw [back] at later
      exact absurd shorter (Nat.not_lt.mpr later)
  · exact Or.inl

/-- One rule that writes an `a` where `ab` was; a `b` right behind makes the needle again. -/
def seam : RuleSet :=
  ⟨['s', 'e', 'a', 'm'], none, [⟨['c', 'u', 't'], .exact ['a', 'b'], .text ['a'], .all, .replace, none, true⟩], []⟩

theorem rerun_seam_rest :
    build seam.name seam.rules seam.expectations = .ok seam ∧ (∀ rule ∈ seam.rules, rule.Shortens) ∧
      (seam.run (seam.run ['a', 'b']).1).1 = (seam.run ['a', 'b']).1 := by
  have shorten : ∀ rule ∈ seam.rules, rule.Shortens := by
    intro rule member
    rw [List.mem_singleton.mp member]
    exact ⟨rfl, ['a', 'b'], rfl, by decide⟩
  have accepted : build seam.name seam.rules seam.expectations = .ok seam := rfl
  refine ⟨accepted, shorten, ((rerun_eq_iff accepted ['a', 'b']).2 shorten).mpr ?_⟩
  intro rule member
  rw [List.mem_singleton.mp member]
  refine Or.inr (Or.inl ⟨rfl, ?_⟩)
  rw [show Matcher.anchors (.exact ['a', 'b']) = [['a', 'b']] from rfl, Text.inOrder_singleton]
  decide

/-- Success and a rule that took all of its spans do not make the output come back. -/
theorem rerun_seam_changes :
    ¬ ∀ (set : RuleSet) (document : Text), build set.name set.rules set.expectations = .ok set →
      (set.run document).2.isSuccess = true →
      (∀ result ∈ (set.run document).2.results, result.status = .applied → result.occurrences = result.found) →
      (set.run (set.run document).1).1 = (set.run document).1 := by
  intro back
  have same := back seam ['a', 'b', 'b'] rfl (by decide) (by decide)
  revert same
  decide

end TextMigration.RuleSet
