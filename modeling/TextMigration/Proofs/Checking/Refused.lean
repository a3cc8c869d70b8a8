import Mathlib.Data.Finset.Card
import Mathlib.Data.List.TakeWhile
import TextMigration.Proofs.Checking.Issues
import TextMigration.Proofs.Rewriting.SelfMatch

/-!
What it takes for rules and expectations to be accepted, and what they are refused with. A rule set is built
exactly when it is sound, and otherwise every rule is told of, in order, just what is wrong with it, and then every
expectation without a needle: `build_iff_sound`.
-/

namespace TextMigration

theorem Text.trim_eq_nil_iff {text : Text} : text.trim = [] ↔ ∀ c ∈ text, Unicode.isBlank c = true := by
  rw [trim, List.reverse_eq_nil_iff, List.dropWhile_eq_nil_iff]
  simp only [List.mem_reverse]
  induction text with
  | nil => simp
  | cons c text ih =>
    by_cases blank : Unicode.isBlank c = true
    · rw [List.dropWhile_cons_of_pos blank, ih, List.forall_mem_cons]
      simp [blank]
    · rw [List.dropWhile_cons_of_neg blank]

theorem Text.trim_ne_nil_iff {text : Text} : text.trim ≠ [] ↔ ∃ c ∈ text, Unicode.isBlank c = false := by
  rw [Ne, trim_eq_nil_iff]
  simp

theorem Text.any_nonblank_iff {text : Text} :
    (text.any fun c => !Unicode.isBlank c) = true ↔ text.trim ≠ [] := by
  rw [List.any_eq_true, trim_ne_nil_iff]
  simp

/-- The issue is one that the rule has behind the rules before it. -/
inductive Issue.Arises (before : List Rule) (rule : Rule) : Issue → Prop where
  | unnamed (blank : ∀ c ∈ rule.id, Unicode.isBlank c = true) : Arises before rule (.missingField none .id)
  | duplicate (named : ∃ c ∈ rule.id, Unicode.isBlank c = false)
    (earlier : ∃ other ∈ before, other.id = rule.id) : Arises before rule (.duplicateId rule.id)
  | unmatched (blank : rule.matcher.isBlank = true) :
    Arises before rule (.missingField (some rule.id) .matcher)
  | selfMatching (nonblank : rule.matcher.isBlank = false)
    (unguarded : ∀ needle, rule.precondition ≠ some (.lacks needle))
    (caught : rule.placement ≠ .replace ∨ rule.matcher.Catches rule.replacement) :
    Arises before rule (.selfMatching rule.id)

def Issue.isDuplicate : Issue → Bool
  | duplicateId _ => true
  | _ => false

namespace RuleSet

variable {seen : List Text} {before rules : List Rule} {rule : Rule} {expectations : List Expectation}
  {issue : Issue}

/-- The issues of rules one rule after another, each rule with just those that it has behind the rules before. -/
inductive Told : List Rule → List Rule → List Issue → Prop where
  | done {before : List Rule} : Told before [] []
  | next {before rules : List Rule} {rule : Rule} {own others : List Issue} (few : own.length ≤ 2)
    (once : own.Nodup) (exactly : ∀ issue, issue ∈ own ↔ issue.Arises before rule)
    (later : Told (before ++ [rule]) rules others) : Told before (rule :: rules) (own ++ others)

structure IsSound (rules : List Rule) (expectations : List Expectation) : Prop where
  nonempty : rules ≠ []
  named : ∀ rule ∈ rules, ∃ c ∈ rule.id, Unicode.isBlank c = false
  distinct : (rules.map Rule.id).Nodup
  nonblank : ∀ rule ∈ rules, rule.matcher.isBlank = false
  telling : ∀ expectation ∈ expectations, expectation.needle ≠ []
  kept : ∀ rule ∈ rules, (∀ needle, rule.precondition ≠ some (.lacks needle)) →
    rule.placement = .replace ∧ ¬ rule.matcher.Catches rule.replacement

def namedIds (rules : List Rule) : List Text :=
  (rules.map Rule.id).filter fun id => id.any fun c => !Unicode.isBlank c

section Told

theorem mem_own_iff (known : ∀ id, id ∈ seen ↔ ∃ other ∈ before, other.id = id) :
    issue ∈ idIssues seen rule ++ matcherIssues rule ↔ issue.Arises before rule := by
  rw [List.mem_append, mem_idIssues_iff, mem_matcherIssues_iff, known]
  constructor
  · rintro ((⟨blank, rfl⟩ | ⟨named, earlier, rfl⟩) | ⟨blank, rfl⟩ | ⟨nonblank, rematches, rfl⟩)
    · exact .unnamed (Text.trim_eq_nil_iff.mp blank)
    · exact .duplicate (Text.trim_ne_nil_iff.mp named) earlier
    · exact .unmatched blank
    · obtain ⟨unguarded, caught⟩ := Rule.rematchesOwnOutput_iff.mp rematches
      exact .selfMatching nonblank unguarded caught
  · intro arises
    cases arises with
    | unnamed blank => exact Or.inl (Or.inl ⟨Text.trim_eq_nil_iff.mpr blank, rfl⟩)
    | duplicate named earlier => exact Or.inl (Or.inr ⟨Text.trim_ne_nil_iff.mpr named, earlier, rfl⟩)
    | unmatched blank => exact Or.inr (Or.inl ⟨blank, rfl⟩)
    | selfMatching nonblank unguarded caught =>
      exact Or.inr (Or.inr ⟨nonblank, Rule.rematchesOwnOutput_iff.mpr ⟨unguarded, caught⟩, rfl⟩)

theorem length_idIssues_le (seen : List Text) (rule : Rule) : (idIssues seen rule).length ≤ 1 := by
  rw [idIssues]
  split
  · exact Nat.le_refl 1
  · split <;> simp

theorem length_matcherIssues_le (rule : Rule) : (matcherIssues rule).length ≤ 1 := by
  rw [matcherIssues]
  split
  · exact Nat.le_refl 1
  · split <;> simp

theorem length_own_le (seen : List Text) (rule : Rule) :
    (idIssues seen rule ++ matcherIssues rule).length ≤ 2 := by
  rw [List.length_append]
  exact Nat.add_le_add (length_idIssues_le seen rule) (length_matcherIssues_le rule)

theorem nodup_of_length_le {own : List Issue} (few : own.length ≤ 1) : own.Nodup := by
  rcases own with _ | ⟨issue, _ | ⟨other, others⟩⟩
  · exact List.nodup_nil
  · exact List.nodup_singleton issue
  · simp at few

theorem nodup_own (seen : List Text) (rule : Rule) : (idIssues seen rule ++ matcherIssues rule).Nodup := by
  refine List.nodup_append.mpr ⟨nodup_of_length_le (length_idIssues_le seen rule),
    nodup_of_length_le (length_matcherIssues_le rule), ?_⟩
  intro issue ofId other ofMatcher same
  rw [mem_idIssues_iff] at ofId
  rw [mem_matcherIssues_iff, ← same] at ofMatcher
  rcases ofId with ⟨_, rfl⟩ | ⟨_, _, rfl⟩ <;> simp at ofMatcher

-- The ids that were seen are those of the rules before, the latest first.
theorem told_ruleIssues (before rules : List Rule) :
    Told before rules (ruleIssues (before.map Rule.id).reverse rules) := by
  induction rules generalizing before with
  | nil => exact .done
  | cons rule rules ih =>
    have later := ih (before ++ [rule])
    rw [List.map_append, List.reverse_append] at later
    refine .next (length_own_le _ rule) (nodup_own _ rule) ?_ later
    intro issue
    exact mem_own_iff (by simp)

theorem expectationIssues_eq_replicate (expectations : List Expectation) :
    expectationIssues expectations =
      List.replicate (expectations.countP fun expectation => expectation.needle.isEmpty) .emptyExpectation := by
  rw [expectationIssues, List.map_const', List.countP_eq_length_filter]

end Told

section Count

theorem card_insert_sdiff (ids seen : Finset Text) (id : Text) :
    (if id ∈ seen then 1 else 0) + (insert id ids \ seen).card = (ids \ insert id seen).card + 1 := by
  by_cases known : id ∈ seen
  · rw [if_pos known, Finset.insert_sdiff_of_mem ids known, Finset.insert_eq_of_mem known, Nat.add_comm]
  · have apart : insert id ids \ seen = insert id (ids \ insert id seen) := by
      ext other
      by_cases same : other = id
      · simp [same, known]
      · simp [same]
    rw [if_neg known, apart, Finset.card_insert_of_notMem (by simp), Nat.zero_add]

theorem mem_namedIds_iff {id : Text} : id ∈ namedIds rules ↔ id ∈ rules.map Rule.id ∧ id.trim ≠ [] := by
  rw [namedIds, List.mem_filter, Text.any_nonblank_iff]

theorem namedIds_cons (rule : Rule) (rules : List Rule) :
    namedIds (rule :: rules) = if rule.id.trim = [] then namedIds rules else rule.id :: namedIds rules := by
  rw [namedIds, List.map_cons]
  by_cases blank : rule.id.trim = []
  · rw [if_pos blank, List.filter_cons_of_neg (by rwa [Text.any_nonblank_iff, not_not])]
    rfl
  · rw [if_neg blank]
    exact List.filter_cons_of_pos (Text.any_nonblank_iff.mpr blank)

theorem countP_own (seen : List Text) (rule : Rule) :
    (idIssues seen rule ++ matcherIssues rule).countP Issue.isDuplicate =
      if rule.id.trim ≠ [] ∧ rule.id ∈ seen then 1 else 0 := by
  have elsewhere : (matcherIssues rule).countP Issue.isDuplicate = 0 := by
    rw [List.countP_eq_zero]
    intro issue ofMatcher
    rcases mem_matcherIssues_iff.mp ofMatcher with ⟨_, rfl⟩ | ⟨_, _, rfl⟩ <;> simp [Issue.isDuplicate]
  rw [List.countP_append, elsewhere, idIssues]
  by_cases blank : rule.id.trim = []
  · simp [blank, Issue.isDuplicate]
  · by_cases known : rule.id ∈ seen <;> simp [blank, known, Issue.isDuplicate]

/-- Every rule with an id is told of as a duplicate, but the first that has an id that was not seen before. -/
theorem count_duplicates (seen : List Text) (rules : List Rule) :
    (ruleIssues seen rules).countP Issue.isDuplicate + ((namedIds rules).toFinset \ seen.toFinset).card =
      (namedIds rules).length := by
  induction rules generalizing seen with
  | nil => simp [ruleIssues, namedIds]
  | cons rule rules ih =>
    rw [ruleIssues, List.countP_append, countP_own, namedIds_cons]
    have later := ih (rule.id :: seen)
    rw [List.toFinset_cons] at later
    by_cases blank : rule.id.trim = []
    · have unnamed : rule.id ∉ (namedIds rules).toFinset := by simp [mem_namedIds_iff, blank]
      rw [Finset.sdiff_insert_of_notMem unnamed] at later
      simpa [blank] using later
    · have here := card_insert_sdiff (namedIds rules).toFinset seen.toFinset rule.id
      simp only [blank, ne_eq, not_false_eq_true, true_and, if_false, List.toFinset_cons, List.length_cons,
        List.mem_toFinset] at here ⊢
      omega

end Count

theorem issues_eq_nil_iff_sound : issues rules expectations = [] ↔ IsSound rules expectations := by
  rw [issues_eq_nil_iff]
  constructor
  · intro acceptable
    have clean rule member := matcherIssues_eq_nil_iff.mp (acceptable.clean rule member)
    exact {
      nonempty := acceptable.nonempty
      named := fun rule member => Text.trim_ne_nil_iff.mp (acceptable.named rule member)
      distinct := acceptable.distinct
      nonblank := fun rule member => (clean rule member).1
      telling := acceptable.telling
      kept := fun rule member => Rule.kept_iff.mp (clean rule member).2 }
  · intro sound
    exact {
      nonempty := sound.nonempty
      named := fun rule member => Text.trim_ne_nil_iff.mpr (sound.named rule member)
      distinct := sound.distinct
      clean := fun rule member =>
        matcherIssues_eq_nil_iff.mpr ⟨sound.nonblank rule member, Rule.kept_iff.mpr (sound.kept rule member)⟩
      telling := sound.telling }

theorem eq_issues_of_build {name : Text} {found : List Issue}
    (refused : build name rules expectations = .error found) : found = issues rules expectations := by
  rw [build] at refused
  cases told : issues rules expectations with
  | nil =>
    rw [told] at refused
    contradiction
  | cons issue others =>
    rw [told] at refused
    exact (Except.error.inj refused).symm

theorem countP_issues (rules : List Rule) (expectations : List Expectation) :
    (issues rules expectations).countP Issue.isDuplicate = (ruleIssues [] rules).countP Issue.isDuplicate := by
  have unlisted : (if rules.isEmpty then [Issue.emptyRuleList] else []).countP Issue.isDuplicate = 0 := by
    split <;> rfl
  have unexpected : (expectationIssues expectations).countP Issue.isDuplicate = 0 := by
    rw [expectationIssues_eq_replicate, List.countP_replicate]
    rfl
  rw [issues, List.countP_append, List.countP_append, unlisted, unexpected, Nat.zero_add, Nat.add_zero]

/-- A rule set is built exactly when it is sound, and then of what was given. It is refused with the issues of its
rules, one rule after another, and then one for each expectation without a needle; an empty list of rules is told
first. Ids that can be read are told as duplicates as often as they are more than there are different ones. -/
theorem build_iff_sound (name : Text) (rules : List Rule) (expectations : List Expectation) :
    (∀ set, build name rules expectations = .ok set ↔
      IsSound rules expectations ∧ set = ⟨name, none, rules, expectations⟩) ∧
    ∀ found, build name rules expectations = .error found →
      (∃ ofRules, Told [] rules ofRules ∧
        found = (if rules.isEmpty then [.emptyRuleList] else []) ++ ofRules ++
          List.replicate (expectations.countP fun expectation => expectation.needle.isEmpty) .emptyExpectation) ∧
      found.countP Issue.isDuplicate + (namedIds rules).toFinset.card = (namedIds rules).length := by
  constructor
  · intro set
    rw [build_eq_ok_iff, issues_eq_nil_iff_sound]
  · intro found refused
    rw [eq_issues_of_build refused]
    constructor
    · refine ⟨ruleIssues [] rules, told_ruleIssues [] rules, ?_⟩
      rw [issues, expectationIssues_eq_replicate]
    · rw [countP_issues]
      simpa using count_duplicates [] rules

end RuleSet

end TextMigration
