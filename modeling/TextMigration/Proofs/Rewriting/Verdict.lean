import TextMigration.Proofs.Rewriting.Applying

/-!
What the result of a rule says of the text that the rule ran on. A required rule misses unless it is served
there: its gate is open and it finds a span, or the text that it is guarded by is there
(`isRequiredMiss_apply_iff`). A rule that finds nothing says so when its replacement is in the text all the
same (`alreadyApplied_apply_iff`).
-/

namespace TextMigration.Rule

variable {rule : Rule} {text : Text}

inductive IsServed (rule : Rule) (text : Text) : Prop where
  | guarded (needle : Text) (gate : rule.precondition = some (.lacks needle)) (present : needle <:+: text)
  | taken (opened : rule.isOpen text = true) (found : (rule.matcher.cut text).hits ≠ [])

/-- The rule looks for spans in vain, but its replacement is something and is in the text as it is written. -/
structure FindsItsWork (rule : Rule) (text : Text) : Prop where
  opened : rule.isOpen text = true
  missing : (rule.matcher.cut text).hits = []
  some : rule.replacement.body ≠ []
  present : rule.replacement.body <:+: text

theorem isRequiredMiss_apply_iff :
    (rule.apply text).2.isRequiredMiss = true ↔ rule.required = true ∧ ¬ rule.IsServed text := by
  cases opened : rule.isOpen text with
  | false =>
    obtain ⟨gate, here, fails, skipped⟩ := apply_of_closed opened
    rw [skipped]
    cases gate with
    | contains needle =>
      have unserved : ¬ rule.IsServed text := by
        rintro (⟨other, gate, _⟩ | ⟨holds, _⟩)
        · simp [here] at gate
        · simp [opened] at holds
      simp [Application.isRequiredMiss, blankResult, Precondition.isGuard, unserved]
    | lacks needle =>
      have present : needle <:+: text := by
        simpa [Precondition.holds, Text.contains_iff_infix] using fails
      have served : rule.IsServed text := .guarded needle here present
      simp [Application.isRequiredMiss, Precondition.isGuard, served]
  | true =>
    by_cases missing : (rule.matcher.cut text).hits = []
    · have unserved : ¬ rule.IsServed text := by
        rintro (⟨needle, gate, present⟩ | ⟨_, found⟩)
        · have holds := opened
          simp [isOpen, gate, Precondition.holds, Text.contains_iff_infix.mpr present] at holds
        · exact found missing
      rw [apply_of_missing opened missing]
      simp [Application.isRequiredMiss, blankResult, unserved]
    · have served : rule.IsServed text := .taken opened missing
      rw [apply_of_found opened missing]
      simp [Application.isRequiredMiss, served]

theorem alreadyApplied_apply_iff : (rule.apply text).2.alreadyApplied = true ↔ rule.FindsItsWork text := by
  cases opened : rule.isOpen text with
  | false =>
    obtain ⟨gate, _, _, skipped⟩ := apply_of_closed opened
    rw [skipped]
    constructor
    · intro hint
      simp [blankResult] at hint
    · intro work
      simp [work.opened] at opened
  | true =>
    by_cases missing : (rule.matcher.cut text).hits = []
    · rw [apply_of_missing opened missing]
      constructor
      · intro hint
        obtain ⟨some, present⟩ := replacementPresent_iff.mp hint
        exact ⟨opened, missing, some, present⟩
      · intro work
        exact replacementPresent_iff.mpr ⟨work.some, work.present⟩
    · rw [apply_of_found opened missing]
      constructor
      · intro hint
        simp [blankResult] at hint
      · intro work
        exact absurd work.missing missing

end TextMigration.Rule
