import TextMigration.Proofs.Rewriting.Rest
import TextMigration.Proofs.Rewriting.Sparing

/-!
Rules that are guarded by a part of what they insert. A rule that inserts its replacement as it is written leaves
it in the text wherever it is applied (`body_infix_apply`), whatever it looks for, however many spans it takes and
on which side of them it writes. If the guarded text is in the replacement, the gate is closed from then on, and a
second application changes nothing: `guarded_apply_apply`.
-/

namespace TextMigration.Rule

variable {rule : Rule} {needle text : Text}

-- The inserted text stays whole on either side of a span and in its place.
theorem insertion_infix_edited (rule : Rule) (hit : Hit) : rule.insertion hit <:+: rule.edited hit := by
  rw [edited]
  cases rule.placement with
  | replace => exact List.infix_rfl
  | before => exact (List.prefix_append _ _).isInfix
  | after => exact (List.suffix_append _ _).isInfix

theorem body_infix_apply (inserts : rule.InsertsBody) (applied : (rule.apply text).2.status = .applied) :
    rule.replacement.body <:+: (rule.apply text).1 := by
  obtain ⟨opened, found⟩ := status_apply_iff.mp applied
  cases cut : rule.matcher.cut text with
  | mk hits tail =>
    rw [cut] at found
    obtain ⟨hit, others, rfl⟩ := List.exists_cons_of_ne_nil found
    obtain ⟨count, written⟩ := apply_text_cons opened cut
    rw [written, ← inserts.insertion hit]
    exact (insertion_infix_edited rule hit).trans ⟨hit.gap, rule.splice count ⟨others, tail⟩, rfl⟩

/-- The output of a rule that is guarded by a part of what it inserts is left as it is when the rule is applied to
it, and nothing is taken. If the rule was applied the first time, it is skipped the second time, with its work done
and so not missed; otherwise the second result is the first one over again. -/
theorem guarded_apply_apply (gate : rule.precondition = some (.lacks needle))
    (inside : needle <:+: rule.replacement.body) (inserts : rule.InsertsBody) (text : Text) :
    let output := (rule.apply text).1
    (rule.apply output).1 = output ∧ (rule.apply output).2.occurrences = 0 ∧
      ((rule.apply text).2.status = .applied →
        (rule.apply output).2.status = .skipped (Precondition.lacks needle).display true ∧
          (rule.apply output).2.isRequiredMiss = false) ∧
      ((rule.apply text).2.status ≠ .applied → rule.apply output = rule.apply text) := by
  intro output
  by_cases applied : (rule.apply text).2.status = .applied
  · have there : needle <:+: output := inside.trans (body_infix_apply inserts applied)
    have skipped := apply_of_guarded gate there
    refine ⟨by rw [skipped], by rw [skipped]; rfl, fun _ => ?_, fun idle => absurd applied idle⟩
    rw [skipped]
    exact ⟨rfl, by simp [Application.isRequiredMiss]⟩
  · obtain ⟨same, none⟩ := apply_of_idle applied
    have unchanged : output = text := same
    rw [unchanged]
    exact ⟨same, none, fun taken => absurd taken applied, fun _ => rfl⟩

def importing : Rule :=
  ⟨['i'], .pattern ⟨['x', '+'], #[.chars [(120, 120)], .branch 0 2, .done], []⟩, .fragment ⟨['f'], ['$', '1', 'x']⟩,
    .first, .before, some (.lacks ['$', '1']), true⟩

theorem guarded_apply_importing :
    importing.precondition = some (.lacks ['$', '1']) ∧ ['$', '1'] <:+: importing.replacement.body ∧
      (importing.apply ['x', ' ', 'x']).1 = ['$', '1', 'x', 'x', ' ', 'x'] ∧
      (importing.apply ['$', '1', 'x', 'x', ' ', 'x']).1 = ['$', '1', 'x', 'x', ' ', 'x'] := by
  have inside : ['$', '1'] <:+: importing.replacement.body := ⟨[], ['x'], rfl⟩
  have once : (importing.apply ['x', ' ', 'x']).1 = ['$', '1', 'x', 'x', ' ', 'x'] := by decide +kernel
  have twice := (guarded_apply_apply rfl inside (.fragment _ rfl) ['x', ' ', 'x']).1
  rw [once] at twice
  exact ⟨rfl, inside, once, twice⟩

end TextMigration.Rule
