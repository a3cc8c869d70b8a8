import TextMigration.Proofs.Checking.Accepted
import TextMigration.Proofs.Checking.Expected
import TextMigration.Proofs.Rewriting.Tightening
import TextMigration.Proofs.Running.Separated

/-!
Rule sets in which the order of the rules matters. No rule makes anew what a rule before it has used up, so
what is gone once a rule has run is gone in the end (`clear_of_kept`). If moreover every rule uses up what it
looks for, or is guarded by a text that the run has to leave, then a run that succeeds leaves nothing for
another one to do: `IsOrdered.rerun`.
-/

namespace TextMigration

namespace Rule

variable {rule : Rule} {text : Text}

/-- If the rule takes every span, there is none when it has run. -/
def Exhausts (rule : Rule) : Prop := RuleSet.IsSeparated [{ rule with scope := .all }]

instance (rule : Rule) : Decidable rule.Exhausts :=
  inferInstanceAs (Decidable (RuleSet.IsSeparated _))

namespace Exhausts

theorem plain (exhausts : rule.Exhausts) : rule.IsPlain :=
  have whole := RuleSet.IsSeparated.plain exhausts _ List.mem_cons_self
  ⟨whole.ungated, whole.replaces, whole.literal⟩

theorem nonblank (exhausts : rule.Exhausts) : rule.matcher.isBlank = false :=
  (RuleSet.IsSeparated.nonblank exhausts List.mem_cons_self :)

theorem idle (exhausts : rule.Exhausts) (clear : ¬ Text.InOrder rule.matcher.anchors text) :
    (rule.apply text).2.status ≠ .applied := by
  rw [Ne, status_apply_iff]
  rintro ⟨_, found⟩
  exact found ((Matcher.hits_eq_nil_iff exhausts.plain.literal exhausts.nonblank).mpr clear)

theorem clear_apply (exhausts : rule.Exhausts) (whole : rule.scope = .all ∨ (rule.apply text).2.found ≤ 1) :
    ¬ Text.InOrder rule.matcher.anchors (rule.apply text).1 := by
  have opened : rule.isOpen text = true := exhausts.plain.isOpen text
  have every : rule.take (rule.matcher.cut text).hits.length = (rule.matcher.cut text).hits.length := by
    cases scope : rule.scope with
    | all => simp [take, scope]
    | first =>
      have few : (rule.matcher.cut text).hits.length ≤ 1 := by
        simpa [scope, found_apply opened] using whole
      rw [take, scope]
      exact Nat.min_eq_right few
  have same : (rule.apply text).1 = ({ rule with scope := .all }.apply text).1 := by
    rw [apply_text opened, every, apply_text (show isOpen { rule with scope := .all } text = true from opened)]
    rfl
  rw [same]
  exact (RuleSet.IsSeparated.clear_apply exhausts List.mem_cons_self text :)

end Exhausts

def IsAnswered (rule : Rule) (expectations : List Expectation) : Prop :=
  ∃ expectation ∈ expectations, expectation = .present expectation.needle ∧
    rule.precondition = some (.lacks expectation.needle)

instance (rule : Rule) (expectations : List Expectation) : Decidable (rule.IsAnswered expectations) :=
  inferInstanceAs (Decidable (∃ expectation ∈ expectations, expectation = .present expectation.needle ∧
    rule.precondition = some (.lacks expectation.needle)))

theorem IsAnswered.idle {expectations : List Expectation} (answered : rule.IsAnswered expectations)
    (met : ∀ expectation ∈ expectations, expectation.IsMet text) : (rule.apply text).2.status ≠ .applied := by
  obtain ⟨expectation, member, kind, gate⟩ := answered
  have there : expectation.needle <:+: text := by
    have fine := met expectation member
    rw [kind] at fine
    exact fine
  rw [Ne, status_apply_iff]
  rintro ⟨opened, _⟩
  rw [isOpen, gate] at opened
  exact Precondition.holds_lacks_iff.mp opened there

end Rule

namespace RuleSet

variable {set : RuleSet} {rule : Rule} {document : Text} {loose : Pattern.Loose}

/-- No rule makes what a rule before it looks for, and each rule uses up what it looks for, or is guarded by a
text that is expected, or is the last and tightens loose words. -/
structure IsOrdered (set : RuleSet) (loose : Pattern.Loose) : Prop where
  kept : set.rules.Pairwise fun rule later => later.Spares rule.matcher.anchors
  ends : ∀ rule ∈ set.rules, rule.Exhausts ∨ rule.IsAnswered set.expectations ∨
    (set.rules.getLast? = some rule ∧ rule.Tightens loose)

instance (set : RuleSet) (loose : Pattern.Loose) : Decidable (set.IsOrdered loose) :=
  decidable_of_iff ((set.rules.Pairwise fun rule later => later.Spares rule.matcher.anchors) ∧
      ∀ rule ∈ set.rules, rule.Exhausts ∨ rule.IsAnswered set.expectations ∨
        (set.rules.getLast? = some rule ∧ rule.Tightens loose))
    ⟨fun ⟨a, b⟩ => ⟨a, b⟩, fun ⟨a, b⟩ => ⟨a, b⟩⟩

-- The text that is verified is the one that the last rule has tightened.
theorem reads_absent (last : set.rules.getLast? = some rule) (tightens : rule.Tightens loose)
    (document : Text) : ∀ piece, loose.Reads piece → ¬ piece <:+: (set.run document).1 := by
  obtain ⟨before, split⟩ := List.getLast?_eq_some_iff.mp last
  rw [run_text, split, applyAll_append]
  exact tightens.clear_apply _

namespace IsOrdered

/-- After a run that succeeds no rule applies any more, provided that each rule for one span found no second
one. -/
theorem idle (ordered : set.IsOrdered loose) (acceptable : IsAcceptable set.rules set.expectations)
    (success : (set.run document).2.isSuccess = true)
    (single : ∀ before rule after, set.rules = before ++ rule :: after → rule.Exhausts → rule.scope = .first →
      (rule.apply (applyAll before document).1).2.found ≤ 1) :
    ∀ rule ∈ set.rules, (rule.apply (set.run document).1).2.status ≠ .applied := by
  have met : ∀ expectation ∈ set.expectations, expectation.IsMet (set.run document).1 :=
    (Expectation.check_eq_nil_iff acceptable.telling).mp (Report.isSuccess_iff.mp success).1
  intro rule member
  rcases ordered.ends rule member with exhausts | answered | ⟨last, tightens⟩
  · obtain ⟨before, after, split⟩ := List.append_of_mem member
    apply exhausts.idle
    apply clear_of_kept ordered.kept split
    apply exhausts.clear_apply
    cases scope : rule.scope with
    | all => exact Or.inl rfl
    | first => exact Or.inr (single before rule after split exhausts scope)
  · exact answered.idle met
  · rw [Ne, Rule.status_apply_iff]
    rintro ⟨_, found⟩
    exact found (tightens.hits_eq_nil_iff.mpr (reads_absent last tightens document))

theorem rerun (ordered : set.IsOrdered loose) (acceptable : IsAcceptable set.rules set.expectations)
    (success : (set.run document).2.isSuccess = true)
    (single : ∀ before rule after, set.rules = before ++ rule :: after → rule.Exhausts → rule.scope = .first →
      (rule.apply (applyAll before document).1).2.found ≤ 1) :
    (set.run (set.run document).1).2.totalOccurrences = 0 ∧
      (set.run (set.run document).1).1 = (set.run document).1 := by
  have idle := ordered.idle acceptable success single
  have again : applyAll set.rules (set.run document).1 = _ :=
    applyAll_idle fun rule member => (Rule.apply_of_idle (idle rule member)).1
  constructor
  · apply Report.totalOccurrences_eq_zero
    rw [run_results, again]
    intro result member
    obtain ⟨rule, inside, made⟩ := List.mem_map.mp member
    rw [← made]
    exact (Rule.apply_of_idle (idle rule inside)).2
  · rw [run_text, again]

end IsOrdered

end RuleSet

end TextMigration
