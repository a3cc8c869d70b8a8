import TextMigration.RuleFile.Load

/-!
What is known of a rule set that was not refused: it is made of the rules and expectations that were given,
and no rule has an issue, whatever came before it. `issues_eq_nil_iff` says what it takes not to be refused;
leaving rules out, but not all of them, takes nothing of that away. Rule sets that are read from a text have
been asked the same.
-/

namespace TextMigration

namespace RuleSet

variable {name : Text} {rules : List Rule} {expectations : List Expectation} {set : RuleSet}

theorem ok_of_toOption {ε α : Type} {result : Except ε α} {value : α}
    (here : result.toOption = some value) : result = .ok value := by
  cases result with
  | error => simp [Except.toOption] at here
  | ok other => exact congrArg Except.ok (Option.some.inj here)

theorem build_eq_ok_iff : build name rules expectations = .ok set ↔
    issues rules expectations = [] ∧ set = ⟨name, none, rules, expectations⟩ := by
  rw [build]
  cases issues rules expectations with
  | nil => simp [eq_comm]
  | cons issue others => simp

theorem matcherIssues_eq_nil_iff {rule : Rule} :
    matcherIssues rule = [] ↔ rule.matcher.isBlank = false ∧ rule.rematchesOwnOutput = false := by
  rw [matcherIssues]
  by_cases blank : rule.matcher.isBlank = true
  · simp [blank]
  · by_cases rematches : rule.rematchesOwnOutput = true
    · simp [blank, rematches]
    · simp [blank, rematches]

structure IsAcceptable (rules : List Rule) (expectations : List Expectation) : Prop where
  nonempty : rules ≠ []
  named : ∀ rule ∈ rules, rule.id.trim ≠ []
  distinct : (rules.map Rule.id).Nodup
  clean : ∀ rule ∈ rules, matcherIssues rule = []
  telling : ∀ expectation ∈ expectations, expectation.needle ≠ []

theorem idIssues_eq_nil_iff {seen : List Text} {rule : Rule} :
    idIssues seen rule = [] ↔ rule.id.trim ≠ [] ∧ rule.id ∉ seen := by
  rw [idIssues]
  by_cases blank : rule.id.trim = []
  · simp [blank]
  · by_cases known : rule.id ∈ seen
    · simp [blank, known]
    · simp [blank, known]

theorem ruleIssues_eq_nil_iff {seen : List Text} :
    ruleIssues seen rules = [] ↔ (∀ rule ∈ rules, rule.id.trim ≠ []) ∧ (rules.map Rule.id).Nodup ∧
      (∀ rule ∈ rules, rule.id ∉ seen) ∧ ∀ rule ∈ rules, matcherIssues rule = [] := by
  induction rules generalizing seen with
  | nil => simp [ruleIssues]
  | cons first rules ih =>
    simp only [ruleIssues, List.append_eq_nil_iff, idIssues_eq_nil_iff, ih, List.forall_mem_cons,
      List.map_cons, List.nodup_cons, List.mem_map, not_exists, not_and]
    simp only [List.mem_cons, not_or]
    constructor
    · rintro ⟨⟨⟨named, fresh⟩, own⟩, others, distinct, unseen, clean⟩
      exact ⟨⟨named, others⟩, ⟨fun rule member same => (unseen rule member).1 same, distinct⟩,
        ⟨fresh, fun rule member => (unseen rule member).2⟩, own, clean⟩
    · rintro ⟨⟨named, others⟩, ⟨apart, distinct⟩, ⟨fresh, unseen⟩, own, clean⟩
      exact ⟨⟨⟨named, fresh⟩, own⟩, others, distinct,
        fun rule member => ⟨apart rule member, unseen rule member⟩, clean⟩

theorem issues_eq_nil_iff : issues rules expectations = [] ↔ IsAcceptable rules expectations := by
  simp only [issues, List.append_eq_nil_iff, ruleIssues_eq_nil_iff, expectationIssues, List.map_eq_nil_iff,
    List.filter_eq_nil_iff, List.isEmpty_iff]
  constructor
  · rintro ⟨⟨nonempty, named, distinct, _, clean⟩, telling⟩
    exact ⟨by simpa using nonempty, named, distinct, clean, telling⟩
  · intro acceptable
    exact ⟨⟨by simpa using acceptable.nonempty, acceptable.named, acceptable.distinct, by simp,
      acceptable.clean⟩, acceptable.telling⟩

theorem acceptable_of_build (accepted : build name rules expectations = .ok set) :
    IsAcceptable rules expectations :=
  issues_eq_nil_iff.mp (build_eq_ok_iff.mp accepted).1

theorem matcherIssues_of_build (accepted : build name rules expectations = .ok set) :
    ∀ rule ∈ set.rules, matcherIssues rule = [] := by
  rw [(build_eq_ok_iff.mp accepted).2]
  exact (acceptable_of_build accepted).clean

theorem IsAcceptable.build (acceptable : IsAcceptable rules expectations) (name : Text) :
    build name rules expectations = .ok ⟨name, none, rules, expectations⟩ :=
  build_eq_ok_iff.mpr ⟨issues_eq_nil_iff.mpr acceptable, rfl⟩

theorem IsAcceptable.sublist {kept : List Rule} (acceptable : IsAcceptable rules expectations)
    (fewer : kept.Sublist rules) (nonempty : kept ≠ []) : IsAcceptable kept expectations where
  nonempty := nonempty
  named rule member := acceptable.named rule (fewer.subset member)
  distinct := (fewer.map Rule.id).nodup acceptable.distinct
  clean rule member := acceptable.clean rule (fewer.subset member)
  telling := acceptable.telling

end RuleSet

namespace RuleFile

variable {file : RuleFile} {name text : Text} {set : RuleSet}

theorem build_eq_ok_iff : file.build name = .ok set ↔
    file.definitionIssues = [] ∧ RuleSet.issues file.rules file.expectations = [] ∧
      set = ⟨file.nameOr name, file.description, file.rules, file.expectations⟩ := by
  rw [RuleFile.build, RuleSet.build]
  cases RuleSet.issues file.rules file.expectations with
  | nil =>
    cases file.definitionIssues with
    | nil => simp [eq_comm]
    | cons issue others => simp
  | cons issue others => simp

theorem acceptable_of_build (built : file.build name = .ok set) :
    RuleSet.IsAcceptable set.rules set.expectations := by
  obtain ⟨_, clean, rfl⟩ := build_eq_ok_iff.mp built
  exact RuleSet.issues_eq_nil_iff.mp clean

theorem acceptable_of_loadNamed (loaded : loadNamed name text = .ok set) :
    RuleSet.IsAcceptable set.rules set.expectations := by
  rw [loadNamed] at loaded
  cases read : parse text with
  | error error =>
    rw [read] at loaded
    simp [bind, Except.bind] at loaded
  | ok file =>
    rw [read] at loaded
    cases built : file.build name with
    | error issues =>
      simp [bind, Except.bind, built, throw, throwThe, MonadExceptOf.throw] at loaded
    | ok made =>
      simp only [bind, Except.bind, built, pure, Except.pure, Except.ok.injEq] at loaded
      rw [← loaded]
      exact acceptable_of_build built

end RuleFile

end TextMigration
