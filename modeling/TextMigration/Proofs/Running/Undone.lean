import TextMigration.Proofs.Running.Changed
import TextMigration.Proofs.Running.Rerun
import TextMigration.Proofs.Running.Separated

/-!
What it says that a document counts as migrated before: the run gave it back. That no rule was applied does not
follow. A rule may spell out again what was there, and later rules may put back what an earlier one changed;
`migrated_idle_or_undone` says that there is no other way, and that there is none at all for rules that shorten
or that are separated.
-/

namespace TextMigration.RuleSet

variable {rules before after : List Rule} {rule : Rule} {set : RuleSet} {document text : Text}

-- Equal digests tell that the texts are the same, unless they collide.
theorem run_text_of_migrated (migrated : (set.run document).2.alreadyMigrated = true)
    (apart : ¬ Collides document (set.run document).1) : (set.run document).1 = document := by
  have quiet := (Report.alreadyMigrated_iff.mp migrated).1
  by_contra differs
  exact apart (unnoticed_iff.mp ⟨quiet, differs⟩)

def IsIdle (rules : List Rule) (text : Text) : Prop := ∀ rule ∈ rules, (rule.apply text).2.status ≠ .applied

theorem applyAll_of_isIdle (idle : IsIdle rules text) :
    applyAll rules text = (text, rules.map fun rule => (rule.apply text).2) :=
  applyAll_idle fun rule member => (Rule.apply_of_idle (idle rule member)).1

theorem run_of_isIdle (idle : IsIdle set.rules document) :
    (∀ result ∈ (set.run document).2.results, result.status ≠ .applied) ∧
      (set.run document).2.totalOccurrences = 0 := by
  have results : (set.run document).2.results = set.rules.map fun rule => (rule.apply document).2 := by
    rw [run_results, applyAll_of_isIdle idle]
  constructor
  · rw [results]
    intro result member
    obtain ⟨rule, inside, made⟩ := List.mem_map.mp member
    rw [← made]
    exact idle rule inside
  · apply Report.totalOccurrences_eq_zero
    rw [results]
    intro result member
    obtain ⟨rule, inside, made⟩ := List.mem_map.mp member
    rw [← made]
    exact (Rule.apply_of_idle (idle rule inside)).2

/-- The first rule that is applied still sees the text that the run began with. -/
theorem isIdle_or_first_applied (rules : List Rule) (text : Text) :
    IsIdle rules text ∨ ∃ before rule after, rules = before ++ rule :: after ∧ IsIdle before text ∧
      (rule.apply text).2.status = .applied ∧ applyAll rules text =
        ((applyAll after (rule.apply text).1).1,
          (before.map fun earlier => (earlier.apply text).2) ++
            (rule.apply text).2 :: (applyAll after (rule.apply text).1).2) := by
  cases first : rules.find? fun rule => (rule.apply text).2.status = .applied with
  | none =>
    refine Or.inl ?_
    intro rule member
    simpa using List.find?_eq_none.mp first rule member
  | some rule =>
    obtain ⟨taken, before, after, split, others⟩ := List.find?_eq_some_iff_append.mp first
    have idle : IsIdle before text := by
      intro earlier member
      simpa using others earlier member
    refine Or.inr ⟨before, rule, after, split, idle, by simpa using taken, ?_⟩
    rw [split, applyAll_append, applyAll_of_isIdle idle, applyAll_cons]

-- An accepted rule that is applied and leaves the text as it is may write what it looks for.
theorem free_of_unchanged (clean : matcherIssues rule = []) (taken : (rule.apply text).2.status = .applied)
    (same : (rule.apply text).1 = text) : rule.isGuarded = true ∨ rule.matcher.isLiteral = false := by
  obtain ⟨nonblank, kept⟩ := matcherIssues_eq_nil_iff.mp clean
  obtain ⟨opened, found⟩ := Rule.status_apply_iff.mp taken
  rcases (Rule.apply_eq_self_iff nonblank kept).mp same with closed | ⟨literal, absent⟩ | ⟨free, _⟩
  · rw [opened] at closed
    simp at closed
  · exact absurd ((Matcher.hits_eq_nil_iff literal nonblank).mpr absent) found
  · exact free

-- What was made shorter stays shorter.
theorem isIdle_of_shortens (shorten : ∀ rule ∈ rules, rule.Shortens) (same : (applyAll rules text).1 = text) :
    IsIdle rules text := by
  rcases isIdle_or_first_applied rules text with idle | ⟨before, rule, after, split, _, taken, run⟩
  · exact idle
  · have member : rule ∈ rules := by simp [split]
    obtain ⟨opened, found⟩ := Rule.status_apply_iff.mp taken
    obtain ⟨replaces, target, targets, short⟩ := shorten rule member
    have shorter := Rule.length_apply_lt replaces targets opened found short
    have later : (applyAll after (rule.apply text).1).1.length ≤ (rule.apply text).1.length :=
      length_applyAll_le (fun other inside => shorten other (by simp [split, inside])) _
    rw [run] at same
    rw [same] at later
    exact absurd shorter (Nat.not_lt.mpr later)

-- The text is an output, and in an output of separated rules there is nothing left for any of them.
theorem IsSeparated.isIdle (separated : IsSeparated rules) (same : (applyAll rules text).1 = text) :
    IsIdle rules text := by
  intro rule member
  have clear := separated.clear_applyAll text rule member
  rw [same] at clear
  rw [separated.apply_clear member clear]
  simp [Rule.blankResult]

/-- Of a document that counts as migrated before, the run gives back every letter, if the digest keeps the two
apart. Either no rule was applied and nothing is counted, or the first rule that was applied wrote what was
there, which takes a guard or a pattern, or it changed the text and the rules after it put exactly that back.
Where all rules shorten, or all are separated, none was applied. -/
theorem migrated_idle_or_undone {name : Text} {expectations : List Expectation}
    (accepted : build name rules expectations = .ok set) (document : Text)
    (migrated : (set.run document).2.alreadyMigrated = true)
    (apart : ¬ Collides document (set.run document).1) :
    let report := (set.run document).2
    let nothingApplied := (∀ result ∈ report.results, result.status ≠ .applied) ∧ report.totalOccurrences = 0
    (set.run document).1 = document ∧
      (nothingApplied ∨
        ∃ before rule after, set.rules = before ++ rule :: after ∧
          (∀ earlier ∈ before, (earlier.apply document).2.status ≠ .applied) ∧
          (rule.apply document).2.status = .applied ∧
          ((rule.apply document).1 = document ∧ (rule.isGuarded = true ∨ rule.matcher.isLiteral = false) ∨
            (rule.apply document).1 ≠ document ∧ (applyAll after (rule.apply document).1).1 = document)) ∧
      ((∀ rule ∈ set.rules, rule.Shortens) ∨ IsSeparated set.rules → nothingApplied) := by
  intro report nothingApplied
  have same : (applyAll set.rules document).1 = document := run_text_of_migrated migrated apart
  have clean := matcherIssues_of_build accepted
  refine ⟨same, ?_, ?_⟩
  · rcases isIdle_or_first_applied set.rules document with idle | ⟨before, rule, after, split, idle, taken, run⟩
    · exact Or.inl (run_of_isIdle idle)
    · refine Or.inr ⟨before, rule, after, split, idle, taken, ?_⟩
      rw [run] at same
      by_cases unchanged : (rule.apply document).1 = document
      · exact Or.inl ⟨unchanged, free_of_unchanged (clean rule (by simp [split])) taken unchanged⟩
      · exact Or.inr ⟨unchanged, same⟩
  · rintro (shorten | separated)
    · exact run_of_isIdle (isIdle_of_shortens shorten same)
    · exact run_of_isIdle (separated.isIdle same)

def renames : RuleSet :=
  ⟨['r'], none, [⟨['a'], .exact ['a'], .text ['x'], .all, .replace, none, true⟩,
    ⟨['b'], .exact ['b'], .text ['y'], .all, .replace, none, false⟩], []⟩

-- The required rule finds its work, the other one nothing.
theorem migrated_idle_renamed :
    let report := (renames.run ['x', 'c']).2
    build renames.name renames.rules renames.expectations = .ok renames ∧ report.alreadyMigrated = true ∧
      ¬ Collides ['x', 'c'] (renames.run ['x', 'c']).1 ∧ IsSeparated renames.rules ∧
      (renames.run ['x', 'c']).1 = ['x', 'c'] ∧ report.totalOccurrences = 0 := by
  intro report
  have accepted : build renames.name renames.rules renames.expectations = .ok renames := rfl
  have migrated : report.alreadyMigrated = true := by decide +kernel
  have apart : ¬ Collides ['x', 'c'] (renames.run ['x', 'c']).1 := by decide +kernel
  have separated : IsSeparated renames.rules := by decide
  obtain ⟨same, _, idle⟩ := migrated_idle_or_undone accepted ['x', 'c'] migrated apart
  exact ⟨accepted, migrated, apart, separated, same, (idle (Or.inr separated)).2⟩

def undoing : RuleSet :=
  ⟨['u'], none, [⟨['d', 'o'], .exact ['a'], .text ['b'], .all, .replace, none, true⟩,
    ⟨['u', 'n', 'd', 'o'], .exact ['b'], .text ['a'], .all, .replace, none, true⟩], []⟩

/-- A document can count as migrated before although rules were applied to it: what they did cancels out. -/
theorem migrated_undoing_counts :
    ¬ ∀ (set : RuleSet) (document : Text), build set.name set.rules set.expectations = .ok set →
      (set.run document).2.alreadyMigrated = true → (set.run document).2.totalOccurrences = 0 := by
  intro idle
  have counted : (undoing.run ['a']).2.totalOccurrences = 2 := by decide +kernel
  rw [idle undoing ['a'] rfl (by decide +kernel)] at counted
  simp at counted

end TextMigration.RuleSet
