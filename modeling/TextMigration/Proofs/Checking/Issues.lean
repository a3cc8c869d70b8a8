import TextMigration.Proofs.Checking.Accepted

/-!
Which issues rules have, and how many of each kind. Blank ids and blank matchers are told once for each rule
that has one (`count_missingId`, `count_missingMatcher`), and an id once for each rule that has it but the first
(`count_duplicateId`).
-/

namespace TextMigration

inductive Issue.Subject where
  | definition
  | rule
  | list
  | expectation
deriving DecidableEq, Repr

def Issue.subject : Issue → Issue.Subject
  | emptyRuleList => .list
  | missingField _ _ => .rule
  | duplicateId _ => .rule
  | invalidPattern _ _ => .definition
  | unknownFragment _ _ => .definition
  | bothGates _ => .definition
  | selfMatching _ => .rule
  | emptyExpectation => .expectation

namespace RuleSet

variable {seen : List Text} {rule : Rule} {rules : List Rule} {expectations : List Expectation} {issue : Issue}
  {id : Text}

theorem mem_idIssues_iff : issue ∈ idIssues seen rule ↔
    (rule.id.trim = [] ∧ issue = .missingField none .id) ∨
      (rule.id.trim ≠ [] ∧ rule.id ∈ seen ∧ issue = .duplicateId rule.id) := by
  rw [idIssues]
  by_cases blank : rule.id.trim = []
  · simp [blank]
  · by_cases known : rule.id ∈ seen <;> simp [blank, known]

theorem mem_matcherIssues_iff : issue ∈ matcherIssues rule ↔
    (rule.matcher.isBlank = true ∧ issue = .missingField (some rule.id) .matcher) ∨
      (rule.matcher.isBlank = false ∧ rule.rematchesOwnOutput = true ∧ issue = .selfMatching rule.id) := by
  rw [matcherIssues]
  by_cases blank : rule.matcher.isBlank = true
  · simp [blank]
  · by_cases rematches : rule.rematchesOwnOutput = true <;> simp [blank, rematches]

theorem subject_of_mem_idIssues (told : issue ∈ idIssues seen rule) : issue.subject = .rule := by
  rcases mem_idIssues_iff.mp told with ⟨_, rfl⟩ | ⟨_, _, rfl⟩ <;> rfl

theorem subject_of_mem_matcherIssues (told : issue ∈ matcherIssues rule) : issue.subject = .rule := by
  rcases mem_matcherIssues_iff.mp told with ⟨_, rfl⟩ | ⟨_, _, rfl⟩ <;> rfl

theorem subject_of_mem_ruleIssues (told : issue ∈ ruleIssues seen rules) : issue.subject = .rule := by
  induction rules generalizing seen with
  | nil => simp [ruleIssues] at told
  | cons rule rules ih =>
    rw [ruleIssues, List.mem_append, List.mem_append] at told
    rcases told with (ofId | ofMatcher) | later
    · exact subject_of_mem_idIssues ofId
    · exact subject_of_mem_matcherIssues ofMatcher
    · exact ih later

theorem subject_of_mem_expectationIssues (told : issue ∈ expectationIssues expectations) :
    issue.subject = .expectation := by
  obtain ⟨expectation, _, made⟩ := List.mem_map.mp told
  rw [← made]
  rfl

theorem emptyRuleList_mem_issues_iff : .emptyRuleList ∈ issues rules expectations ↔ rules = [] := by
  have unruled : Issue.emptyRuleList ∉ ruleIssues [] rules := fun told => by
    simpa [Issue.subject] using subject_of_mem_ruleIssues told
  have unexpected : Issue.emptyRuleList ∉ expectationIssues expectations := fun told => by
    simpa [Issue.subject] using subject_of_mem_expectationIssues told
  simp [issues, unruled, unexpected]

section Count

-- What is found in rules is told nowhere but among the issues of the rules.
theorem count_issues (ofRule : issue.subject = .rule) :
    (issues rules expectations).count issue = (ruleIssues [] rules).count issue := by
  have unlisted : issue ∉ if rules.isEmpty then [Issue.emptyRuleList] else [] := by
    intro told
    split at told
    · rw [List.mem_singleton.mp told] at ofRule
      simp [Issue.subject] at ofRule
    · simp at told
  have unexpected : issue ∉ expectationIssues expectations := by
    intro told
    rw [subject_of_mem_expectationIssues told] at ofRule
    simp at ofRule
  rw [issues, List.count_append, List.count_append, List.count_eq_zero.mpr unlisted,
    List.count_eq_zero.mpr unexpected, Nat.zero_add, Nat.add_zero]

/-- An issue that does not depend on the ids before is told once for each rule that has it. -/
theorem count_ruleIssues {has : Rule → Bool}
    (each : ∀ seen rule, (idIssues seen rule ++ matcherIssues rule).count issue = if has rule then 1 else 0)
    (seen : List Text) (rules : List Rule) : (ruleIssues seen rules).count issue = rules.countP has := by
  induction rules generalizing seen with
  | nil => rfl
  | cons rule rules ih => rw [ruleIssues, List.count_append, each, ih, List.countP_cons, Nat.add_comm]

theorem count_missingId (seen : List Text) (rules : List Rule) :
    (ruleIssues seen rules).count (.missingField none .id) = rules.countP fun rule => rule.id.trim.isEmpty := by
  apply count_ruleIssues
  intro seen rule
  have elsewhere : (matcherIssues rule).count (.missingField none .id) = 0 := by
    simp [List.count_eq_zero, mem_matcherIssues_iff]
  rw [List.count_append, elsewhere, idIssues]
  by_cases blank : rule.id.trim.isEmpty = true
  · simp [blank]
  · by_cases known : rule.id ∈ seen
    · simp [blank, known]
    · simp [blank, known]

theorem count_missingMatcher (id : Text) (seen : List Text) (rules : List Rule) :
    (ruleIssues seen rules).count (.missingField (some id) .matcher) =
      rules.countP fun rule => rule.id = id ∧ rule.matcher.isBlank = true := by
  apply count_ruleIssues
  intro seen rule
  have elsewhere : (idIssues seen rule).count (.missingField (some id) .matcher) = 0 := by
    simp [List.count_eq_zero, mem_idIssues_iff]
  rw [List.count_append, elsewhere, matcherIssues]
  by_cases blank : rule.matcher.isBlank = true
  · by_cases same : rule.id = id
    · simp [blank, same]
    · simp [blank, same]
  · by_cases rematches : rule.rematchesOwnOutput = true
    · simp [blank, rematches]
    · simp [blank, rematches]

-- Only the first of the rules with one id is not told, and not even that one if the id was seen before.
theorem count_duplicateId (named : id.trim ≠ []) (seen : List Text) (rules : List Rule) :
    (ruleIssues seen rules).count (.duplicateId id) =
      (rules.countP fun rule => rule.id = id) - if id ∈ seen then 0 else 1 := by
  induction rules generalizing seen with
  | nil => simp [ruleIssues]
  | cons rule rules ih =>
    have elsewhere : (matcherIssues rule).count (.duplicateId id) = 0 := by
      simp [List.count_eq_zero, mem_matcherIssues_iff]
    rw [ruleIssues, List.count_append, List.count_append, elsewhere, ih, List.countP_cons, idIssues]
    by_cases same : rule.id = id
    · by_cases known : id ∈ seen
      · simp [same, named, known, Nat.add_comm]
      · simp [same, named, known]
    · have other : ¬ id = rule.id := fun equal => same equal.symm
      by_cases blank : rule.id.trim = []
      · simp [same, other, blank]
      · by_cases known : rule.id ∈ seen
        · simp [same, other, blank, known]
        · simp [same, other, blank, known]

end Count

end RuleSet

end TextMigration
