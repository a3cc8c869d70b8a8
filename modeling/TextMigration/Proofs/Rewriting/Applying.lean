import TextMigration.Rule
import TextMigration.Proofs.Matching.Anchors

/-!
The three ways in which a rule ends: its gate is closed, nothing is found, or spans are taken. Then what a
rule does that has no gate and replaces literal texts.
-/

namespace TextMigration

namespace Precondition

variable {needle text : Text}

theorem holds_contains_iff : (contains needle).holds text = true ↔ needle <:+: text :=
  Text.contains_iff_infix

theorem holds_lacks_iff : (lacks needle).holds text = true ↔ ¬ needle <:+: text := by
  rw [← Text.contains_iff_infix]
  simp [holds]

end Precondition

namespace Rule

variable {rule : Rule} {text : Text}

def isOpen (rule : Rule) (text : Text) : Bool := rule.precondition.all fun gate => gate.holds text

theorem replacementPresent_iff :
    rule.replacementPresent text = true ↔ rule.replacement.body ≠ [] ∧ rule.replacement.body <:+: text := by
  simp [replacementPresent, Text.contains_iff_infix]

theorem closedGate?_of_open (opened : rule.isOpen text = true) : rule.closedGate? text = none := by
  rw [isOpen, Option.all_eq_true] at opened
  rw [closedGate?, Option.filter_eq_none_iff]
  intro gate here
  simp [opened gate here]

theorem apply_of_closed (closed : rule.isOpen text = false) :
    ∃ gate, rule.precondition = some gate ∧ gate.holds text = false ∧
      rule.apply text = (text, { rule.blankResult with status := .skipped gate.display gate.isGuard }) := by
  rw [isOpen, Option.all_eq_false] at closed
  obtain ⟨gate, here, fails⟩ := closed
  have same : rule.closedGate? text = some gate := by simp [closedGate?, here, Option.filter, fails]
  exact ⟨gate, here, fails, by rw [apply, same]⟩

-- What the rule is guarded by is there already.
theorem apply_of_guarded {needle : Text} (gate : rule.precondition = some (.lacks needle))
    (inside : needle <:+: text) :
    rule.apply text =
      (text, { rule.blankResult with status := .skipped (Precondition.lacks needle).display true }) := by
  have closed : rule.isOpen text = false := by
    simpa [isOpen, gate, Precondition.holds] using Text.contains_iff_infix.mpr inside
  obtain ⟨other, here, _, skipped⟩ := apply_of_closed closed
  rw [gate, Option.some.injEq] at here
  rw [skipped, ← here]
  rfl

theorem apply_of_missing (opened : rule.isOpen text = true) (missing : (rule.matcher.cut text).hits = []) :
    rule.apply text = (text, { rule.blankResult with
      alreadyApplied := rule.replacementPresent text
      nearMiss := rule.matcher.literalTarget?.bind (NearMiss.nearest text) }) := by
  simp [apply, closedGate?_of_open opened, missing]

theorem apply_of_found (opened : rule.isOpen text = true) (found : (rule.matcher.cut text).hits ≠ []) :
    rule.apply text =
      (rule.splice (rule.take (rule.matcher.cut text).hits.length) (rule.matcher.cut text),
        { rule.blankResult with
          status := .applied
          matched := true
          occurrences := rule.take (rule.matcher.cut text).hits.length
          found := (rule.matcher.cut text).hits.length }) := by
  simp [apply, closedGate?_of_open opened, found]

-- With its gate open a rule splices, also where there is nothing to take.
theorem apply_text (opened : rule.isOpen text = true) :
    (rule.apply text).1 =
      rule.splice (rule.take (rule.matcher.cut text).hits.length) (rule.matcher.cut text) := by
  by_cases missing : (rule.matcher.cut text).hits = []
  · rw [apply_of_missing opened missing, splice, missing, Matcher.tail_of_missing missing]
    simp [Cuts.join]
  · rw [apply_of_found opened missing]

/-- The three ways: the rule is skipped, misses, or takes spans. -/
theorem apply_cases (rule : Rule) (text : Text) :
    (∃ gate, rule.precondition = some gate ∧ gate.holds text = false ∧ rule.isOpen text = false ∧
      rule.apply text = (text, { rule.blankResult with status := .skipped gate.display gate.isGuard })) ∨
    (rule.isOpen text = true ∧ (rule.matcher.cut text).hits = [] ∧
      rule.apply text = (text, { rule.blankResult with
        alreadyApplied := rule.replacementPresent text
        nearMiss := rule.matcher.literalTarget?.bind (NearMiss.nearest text) })) ∨
    (rule.isOpen text = true ∧ (rule.matcher.cut text).hits ≠ [] ∧
      rule.apply text =
        (rule.splice (rule.take (rule.matcher.cut text).hits.length) (rule.matcher.cut text),
          { rule.blankResult with
            status := .applied
            matched := true
            occurrences := rule.take (rule.matcher.cut text).hits.length
            found := (rule.matcher.cut text).hits.length })) := by
  cases opened : rule.isOpen text with
  | false =>
    obtain ⟨gate, here, fails, skipped⟩ := apply_of_closed opened
    exact Or.inl ⟨gate, here, fails, rfl, skipped⟩
  | true =>
    by_cases missing : (rule.matcher.cut text).hits = []
    · exact Or.inr (Or.inl ⟨rfl, missing, apply_of_missing opened missing⟩)
    · exact Or.inr (Or.inr ⟨rfl, missing, apply_of_found opened missing⟩)

theorem ruleId_apply (rule : Rule) (text : Text) : (rule.apply text).2.ruleId = rule.id := by
  rcases rule.apply_cases text with ⟨_, _, _, _, skipped⟩ | ⟨_, _, missed⟩ | ⟨_, _, taken⟩
  · rw [skipped]
    rfl
  · rw [missed]
    rfl
  · rw [taken]
    rfl

theorem found_apply (opened : rule.isOpen text = true) :
    (rule.apply text).2.found = (rule.matcher.cut text).hits.length := by
  rcases rule.apply_cases text with ⟨_, _, _, closed, _⟩ | ⟨_, missing, missed⟩ | ⟨_, _, taken⟩
  · rw [opened] at closed
    simp at closed
  · rw [missed, missing]
    rfl
  · rw [taken]

theorem status_apply_iff :
    (rule.apply text).2.status = .applied ↔ rule.isOpen text = true ∧ (rule.matcher.cut text).hits ≠ [] := by
  rcases rule.apply_cases text with ⟨_, _, _, closed, skipped⟩ | ⟨_, missing, missed⟩ | ⟨opened, found, taken⟩
  · rw [skipped]
    simp [closed]
  · rw [missed]
    simp [missing, blankResult]
  · rw [taken]
    exact ⟨fun _ => ⟨opened, found⟩, fun _ => rfl⟩

-- A rule that is not applied leaves the text alone and counts nothing.
theorem apply_of_idle (idle : (rule.apply text).2.status ≠ .applied) :
    (rule.apply text).1 = text ∧ (rule.apply text).2.occurrences = 0 := by
  rcases rule.apply_cases text with ⟨_, _, _, _, skipped⟩ | ⟨_, _, missed⟩ | ⟨_, _, taken⟩
  · rw [skipped]
    exact ⟨rfl, rfl⟩
  · rw [missed]
    exact ⟨rfl, rfl⟩
  · rw [taken] at idle
    exact absurd rfl idle

theorem edited_literal (replaces : rule.placement = .replace) (literal : rule.matcher.isLiteral = true)
    (hit : Hit) : rule.edited hit = rule.replacement.body := by
  rw [edited, replaces]
  simp only [insertion]
  split
  · next matcher _ _ => simp [matcher, Matcher.isLiteral] at literal
  · rfl

/-- The rule has no gate and puts its replacement in the place of literal texts. -/
structure IsPlain (rule : Rule) : Prop where
  ungated : rule.precondition = none
  replaces : rule.placement = .replace
  literal : rule.matcher.isLiteral = true

instance (rule : Rule) : Decidable rule.IsPlain :=
  decidable_of_iff (rule.precondition = none ∧ rule.placement = .replace ∧ rule.matcher.isLiteral = true)
    ⟨fun ⟨a, b, c⟩ => ⟨a, b, c⟩, fun ⟨a, b, c⟩ => ⟨a, b, c⟩⟩

namespace IsPlain

theorem isOpen (plain : rule.IsPlain) (text : Text) : rule.isOpen text = true := by
  simp [Rule.isOpen, plain.ungated]

theorem edited (plain : rule.IsPlain) (hit : Hit) : rule.edited hit = rule.replacement.body :=
  edited_literal plain.replaces plain.literal hit

theorem apply_all (plain : rule.IsPlain) (all : rule.scope = .all) (text : Text) :
    (rule.apply text).1 = (rule.matcher.cut text).filled rule.replacement.body := by
  rw [apply_text (plain.isOpen text)]
  simp only [splice, take, all, List.take_length, List.drop_length, Cuts.filled, plain.edited]
  rfl

theorem apply_first (plain : rule.IsPlain) (first : rule.scope = .first) {text : Text} {hit : Hit}
    {hits : List Hit} {tail : Text} (cut : rule.matcher.cut text = ⟨hit :: hits, tail⟩) :
    (rule.apply text).1 = hit.gap ++ rule.replacement.body ++ Cuts.join ⟨hits, tail⟩ := by
  rw [apply_text (plain.isOpen text)]
  simp [splice, take, first, cut, plain.edited]

end IsPlain

end Rule

end TextMigration
