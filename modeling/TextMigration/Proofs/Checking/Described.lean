import Mathlib.Data.List.Forall2
import TextMigration.Proofs.Checking.Issues

/-!
What becomes of the definitions of a rule file. A definition describes one rule, unless its pattern is not one,
its fragment is missing or it has two gates (`Definition.isMakeable_iff`). A file is built when each of its
definitions describes a rule and all these rules together are acceptable, and it is built of them and nothing
else: `build_iff_makeable`.
-/

namespace TextMigration.RuleFile

inductive Target.LooksFor : Target → Matcher → Prop where
  | exact (text : Text) : LooksFor (.exact text) (.exact text)
  | delimited (start stop : Text) : LooksFor (.delimited start stop) (.delimited start stop)
  | pattern {regex : Text} {pattern : Pattern} (compiled : Pattern.compile regex = .ok pattern) :
    LooksFor (.pattern regex) (.pattern pattern)

inductive Source.PutsIn (fragments : List (Text × Text)) : Source → Replacement → Prop where
  | text (text : Text) : PutsIn fragments (.text text) (.text text)
  | fragment {name body : Text} (declared : fragments.lookup name = some body) :
    PutsIn fragments (.fragment name) (.fragment ⟨name, body⟩)

inductive Gates : Option Text → Option Text → Option Precondition → Prop where
  | ungated : Gates none none none
  | onlyWith (text : Text) : Gates (some text) none (some (.contains text))
  | onlyWithout (text : Text) : Gates none (some text) (some (.lacks text))

theorem Target.exists_looksFor_iff {target : Target} : (∃ matcher, target.LooksFor matcher) ↔
    ∀ regex, target = .pattern regex → ∃ pattern, Pattern.compile regex = .ok pattern := by
  constructor
  · rintro ⟨matcher, looks⟩ regex rfl
    cases looks with
    | pattern compiled => exact ⟨_, compiled⟩
  · intro compiles
    cases target with
    | exact text => exact ⟨_, .exact text⟩
    | delimited start stop => exact ⟨_, .delimited start stop⟩
    | pattern regex =>
      obtain ⟨pattern, compiled⟩ := compiles regex rfl
      exact ⟨_, .pattern compiled⟩

theorem Source.exists_putsIn_iff {fragments : List (Text × Text)} {source : Source} :
    (∃ replacement, source.PutsIn fragments replacement) ↔
      ∀ name, source = .fragment name → ∃ body, fragments.lookup name = some body := by
  constructor
  · rintro ⟨replacement, puts⟩ name rfl
    cases puts with
    | fragment declared => exact ⟨_, declared⟩
  · intro declared
    cases source with
    | text text => exact ⟨_, .text text⟩
    | fragment name =>
      obtain ⟨body, found⟩ := declared name rfl
      exact ⟨_, .fragment found⟩

theorem exists_gates_iff {whenText unlessText : Option Text} :
    (∃ gate, Gates whenText unlessText gate) ↔ whenText = none ∨ unlessText = none := by
  constructor
  · rintro ⟨gate, gates⟩
    cases gates with
    | ungated => exact Or.inl rfl
    | onlyWith => exact Or.inr rfl
    | onlyWithout => exact Or.inl rfl
  · rintro (rfl | rfl)
    · cases unlessText with
      | none => exact ⟨_, .ungated⟩
      | some text => exact ⟨_, .onlyWithout text⟩
    · cases whenText with
      | none => exact ⟨_, .ungated⟩
      | some text => exact ⟨_, .onlyWith text⟩

namespace Definition

variable {fragments : List (Text × Text)} {definition : Definition} {definitions : List Definition}
  {rule : Rule} {rules : List Rule} {issue : Issue}

/-- The rule is the one that the definition speaks of. -/
structure Describes (fragments : List (Text × Text)) (definition : Definition) (rule : Rule) : Prop where
  id : rule.id = definition.id
  required : rule.required = definition.required
  scope : rule.scope = definition.scope
  placement : rule.placement = definition.placement
  matcher : definition.target.LooksFor rule.matcher
  replacement : definition.source.PutsIn fragments rule.replacement
  gate : Gates definition.whenText definition.unlessText rule.precondition

/-- Nothing in the definition itself keeps a rule from being made. -/
structure IsMakeable (fragments : List (Text × Text)) (definition : Definition) : Prop where
  compiles : ∀ regex, definition.target = .pattern regex → ∃ pattern, Pattern.compile regex = .ok pattern
  declared : ∀ name, definition.source = .fragment name → ∃ body, fragments.lookup name = some body
  oneGate : definition.whenText = none ∨ definition.unlessText = none

theorem matcher_eq_ok_iff {matcher : Matcher} :
    definition.matcher = .ok matcher ↔ definition.target.LooksFor matcher := by
  rw [Definition.matcher]
  cases definition.target with
  | exact text =>
    constructor
    · rintro ⟨⟩
      exact .exact text
    · rintro ⟨⟩
      rfl
  | delimited start stop =>
    constructor
    · rintro ⟨⟩
      exact .delimited start stop
    · rintro ⟨⟩
      rfl
  | pattern regex =>
    constructor
    · intro made
      cases compiled : Pattern.compile regex with
      | error refusal => simp [compiled] at made
      | ok pattern =>
        simp only [compiled, Except.ok.injEq] at made
        rw [← made]
        exact .pattern compiled
    · rintro ⟨⟩
      next compiled => simp only [compiled]

theorem replacement_eq_ok_iff {replacement : Replacement} :
    definition.replacement fragments = .ok replacement ↔ definition.source.PutsIn fragments replacement := by
  rw [Definition.replacement]
  cases definition.source with
  | text text =>
    constructor
    · rintro ⟨⟩
      exact .text text
    · rintro ⟨⟩
      rfl
  | fragment name =>
    constructor
    · intro made
      cases declared : fragments.lookup name with
      | none => simp [declared] at made
      | some body =>
        simp only [declared, Except.ok.injEq] at made
        rw [← made]
        exact .fragment declared
    · rintro ⟨⟩
      next declared => simp only [declared]

theorem gate_eq_ok_iff {gate : Option Precondition} :
    definition.gate = .ok gate ↔ Gates definition.whenText definition.unlessText gate := by
  rw [Definition.gate]
  cases definition.whenText with
  | none =>
    cases definition.unlessText with
    | none =>
      constructor
      · rintro ⟨⟩
        exact .ungated
      · rintro ⟨⟩
        rfl
    | some text =>
      constructor
      · rintro ⟨⟩
        exact .onlyWithout text
      · rintro ⟨⟩
        rfl
  | some text =>
    cases definition.unlessText with
    | none =>
      constructor
      · rintro ⟨⟩
        exact .onlyWith text
      · rintro ⟨⟩
        rfl
    | some other =>
      constructor
      · rintro ⟨⟩
      · rintro ⟨⟩

theorem rule?_eq_some_iff : definition.rule? fragments = some rule ↔ definition.Describes fragments rule := by
  constructor
  · intro made
    rw [rule?] at made
    split at made
    · next matcher replacement gate looks puts gates =>
      rw [← Option.some.inj made]
      exact ⟨rfl, rfl, rfl, rfl, matcher_eq_ok_iff.mp looks, replacement_eq_ok_iff.mp puts,
        gate_eq_ok_iff.mp gates⟩
    · simp at made
  · intro described
    rw [rule?, matcher_eq_ok_iff.mpr described.matcher, replacement_eq_ok_iff.mpr described.replacement,
      gate_eq_ok_iff.mpr described.gate]
    simp only [← described.id, ← described.required, ← described.scope, ← described.placement]

theorem issues_eq_nil_iff : definition.issues fragments = [] ↔ ∃ rule, definition.rule? fragments = some rule := by
  rw [issues, rule?]
  cases definition.matcher with
  | error => simp [issue]
  | ok matcher =>
    cases definition.replacement fragments with
    | error => simp [issue]
    | ok replacement =>
      cases definition.gate with
      | error => simp [issue]
      | ok gate => simp [issue]

theorem isMakeable_iff : definition.IsMakeable fragments ↔ ∃ rule, definition.Describes fragments rule := by
  constructor
  · rintro ⟨compiles, declared, oneGate⟩
    obtain ⟨matcher, looks⟩ := Target.exists_looksFor_iff.mpr compiles
    obtain ⟨replacement, puts⟩ := Source.exists_putsIn_iff.mpr declared
    obtain ⟨gate, gates⟩ := exists_gates_iff.mpr oneGate
    exact ⟨⟨definition.id, matcher, replacement, definition.scope, definition.placement, gate,
      definition.required⟩, rfl, rfl, rfl, rfl, looks, puts, gates⟩
  · rintro ⟨rule, described⟩
    exact ⟨Target.exists_looksFor_iff.mp ⟨_, described.matcher⟩,
      Source.exists_putsIn_iff.mp ⟨_, described.replacement⟩, exists_gates_iff.mp ⟨_, described.gate⟩⟩

theorem mem_issue_iff {α : Type} {result : Except Issue α} :
    issue ∈ Definition.issue result ↔ result = .error issue := by
  cases result with
  | error other => simp [Definition.issue, eq_comm]
  | ok value => simp [Definition.issue]

theorem matcher_eq_error_iff : definition.matcher = .error issue ↔ ∃ regex refusal,
    definition.target = .pattern regex ∧ Pattern.compile regex = .error refusal ∧
      issue = .invalidPattern definition.id (refusal.message regex) := by
  rw [Definition.matcher]
  cases definition.target with
  | exact text => simp
  | delimited start stop => simp
  | pattern regex =>
    cases compiled : Pattern.compile regex with
    | ok pattern => simp [compiled]
    | error refusal => simp [compiled, eq_comm]

theorem replacement_eq_error_iff : definition.replacement fragments = .error issue ↔ ∃ name,
    definition.source = .fragment name ∧ fragments.lookup name = none ∧
      issue = .unknownFragment definition.id name := by
  rw [Definition.replacement]
  cases definition.source with
  | text text => simp
  | fragment name =>
    constructor
    · intro failed
      cases declared : fragments.lookup name with
      | some body => simp [declared] at failed
      | none =>
        simp only [declared, Except.error.injEq] at failed
        exact ⟨name, rfl, declared, failed.symm⟩
    · rintro ⟨_, ⟨⟩, absent, rfl⟩
      simp only [absent]

theorem gate_eq_error_iff : definition.gate = .error issue ↔
    definition.whenText ≠ none ∧ definition.unlessText ≠ none ∧ issue = .bothGates definition.id := by
  rw [Definition.gate]
  cases definition.whenText with
  | none => cases definition.unlessText <;> simp
  | some text =>
    cases definition.unlessText with
    | none => simp
    | some other => simp [eq_comm]

theorem mem_issues_iff : issue ∈ definition.issues fragments ↔
    (∃ regex refusal, definition.target = .pattern regex ∧ Pattern.compile regex = .error refusal ∧
      issue = .invalidPattern definition.id (refusal.message regex)) ∨
    (∃ name, definition.source = .fragment name ∧ fragments.lookup name = none ∧
      issue = .unknownFragment definition.id name) ∨
    (definition.whenText ≠ none ∧ definition.unlessText ≠ none ∧ issue = .bothGates definition.id) := by
  rw [issues, List.mem_append, List.mem_append, mem_issue_iff, mem_issue_iff, mem_issue_iff, matcher_eq_error_iff,
    replacement_eq_error_iff, gate_eq_error_iff, or_assoc]

theorem subject_of_mem_issues (told : issue ∈ definition.issues fragments) : issue.subject = .definition := by
  rcases mem_issues_iff.mp told with ⟨_, _, _, _, rfl⟩ | ⟨_, _, _, rfl⟩ | ⟨_, _, rfl⟩
  · rfl
  · rfl
  · rfl

theorem forall₂_describes_iff :
    List.Forall₂ (Describes fragments) definitions rules ↔
      (definitions.flatMap fun definition => definition.issues fragments) = [] ∧
        (definitions.filterMap fun definition => definition.rule? fragments) = rules := by
  induction definitions generalizing rules with
  | nil => simp [eq_comm]
  | cons definition definitions ih =>
    rw [List.flatMap_cons, List.append_eq_nil_iff, issues_eq_nil_iff, List.forall₂_cons_left_iff]
    constructor
    · rintro ⟨rule, others, described, rest, rfl⟩
      obtain ⟨clean, made⟩ := ih.mp rest
      have first := rule?_eq_some_iff.mpr described
      exact ⟨⟨⟨rule, first⟩, clean⟩, by rw [List.filterMap_cons, first, made]⟩
    · rintro ⟨⟨⟨rule, first⟩, clean⟩, made⟩
      rw [List.filterMap_cons, first] at made
      exact ⟨rule, _, rule?_eq_some_iff.mp first, ih.mpr ⟨clean, rfl⟩, made.symm⟩

end Definition

variable {file : RuleFile} {default : Text} {set : RuleSet} {rules : List Rule} {issues : List Issue}
  {issue : Issue}

theorem forall₂_describes_rules_iff :
    List.Forall₂ (Definition.Describes file.fragments) file.definitions rules ↔
      file.definitionIssues = [] ∧ file.rules = rules :=
  Definition.forall₂_describes_iff

theorem subject_of_mem_definitionIssues (told : issue ∈ file.definitionIssues) : issue.subject = .definition := by
  obtain ⟨definition, _, own⟩ := List.mem_flatMap.mp told
  exact Definition.subject_of_mem_issues own

/-- What a file is refused with: everything that keeps a rule from being made, and then what is wrong with the
rules that could be made. -/
theorem build_eq_error_iff : file.build default = .error issues ↔
    (file.definitionIssues ≠ [] ∨ RuleSet.issues file.rules file.expectations ≠ []) ∧
      issues = file.definitionIssues ++ (RuleSet.issues file.rules file.expectations).filter file.isTold := by
  rw [RuleFile.build, RuleSet.build]
  cases RuleSet.issues file.rules file.expectations with
  | nil =>
    cases file.definitionIssues with
    | nil => simp
    | cons issue others => simp [eq_comm]
  | cons issue others =>
    rw [Except.error.injEq, eq_comm]
    simp

-- Left out is only that there are no rules, and there are some when no definition has an issue.
theorem ne_nil_of_build (failed : file.build default = .error issues) : issues ≠ [] := by
  obtain ⟨some, rfl⟩ := build_eq_error_iff.mp failed
  intro none
  obtain ⟨made, left⟩ := List.append_eq_nil_iff.mp none
  have found : RuleSet.issues file.rules file.expectations ≠ [] := some.resolve_left (not_not.mpr made)
  obtain ⟨issue, others, split⟩ := List.exists_cons_of_ne_nil found
  have dropped := List.filter_eq_nil_iff.mp left issue (by simp [split])
  have declared : file.definitions ≠ [] := by
    intro empty
    simp [isTold, empty] at dropped
  have empty : issue = .emptyRuleList := by
    simpa [isTold, declared] using dropped
  have noRules : file.rules = [] := RuleSet.emptyRuleList_mem_issues_iff.mp (by rw [split, empty]; simp)
  have described := forall₂_describes_rules_iff.mpr ⟨made, noRules⟩
  exact declared (List.forall₂_nil_right_iff.mp described)

theorem definitions_eq_nil_of_told (failed : file.build default = .error issues)
    (told : .emptyRuleList ∈ issues) : file.definitions = [] := by
  obtain ⟨_, rfl⟩ := build_eq_error_iff.mp failed
  rcases List.mem_append.mp told with early | late
  · simpa [Issue.subject] using subject_of_mem_definitionIssues early
  · simpa [isTold] using (List.mem_filter.mp late).2

/-- A file is built exactly when each of its definitions can be made into a rule and the rules that they describe
are accepted together with its expectations; the rule set then has just these, one rule for each definition and
in order. Otherwise it is refused with some issue, and told to have no rules only if it defines none. -/
theorem build_iff_makeable (file : RuleFile) (default : Text) :
    ((∃ set, file.build default = .ok set) ↔
      (∀ definition ∈ file.definitions, definition.IsMakeable file.fragments) ∧
        ∃ rules, List.Forall₂ (Definition.Describes file.fragments) file.definitions rules ∧
          ∃ set, RuleSet.build (file.nameOr default) rules file.expectations = .ok set) ∧
    (∀ set, file.build default = .ok set →
      List.Forall₂ (Definition.Describes file.fragments) file.definitions set.rules ∧
        set.expectations = file.expectations ∧ set.name = file.nameOr default ∧
        set.description = file.description) ∧
    ∀ issues, file.build default = .error issues →
      issues ≠ [] ∧ (.emptyRuleList ∈ issues → file.definitions = []) := by
  refine ⟨⟨?_, ?_⟩, ?_, ?_⟩
  · rintro ⟨set, built⟩
    obtain ⟨made, clean, _⟩ := build_eq_ok_iff.mp built
    have described := forall₂_describes_rules_iff.mpr ⟨made, rfl⟩
    refine ⟨?_, file.rules, described, _, RuleSet.build_eq_ok_iff.mpr ⟨clean, rfl⟩⟩
    intro definition member
    have own := List.flatMap_eq_nil_iff.mp made definition member
    obtain ⟨rule, first⟩ := Definition.issues_eq_nil_iff.mp own
    exact Definition.isMakeable_iff.mpr ⟨rule, Definition.rule?_eq_some_iff.mp first⟩
  · rintro ⟨_, rules, described, _, accepted⟩
    obtain ⟨made, rfl⟩ := forall₂_describes_rules_iff.mp described
    exact ⟨_, build_eq_ok_iff.mpr ⟨made, (RuleSet.build_eq_ok_iff.mp accepted).1, rfl⟩⟩
  · intro set built
    obtain ⟨made, _, rfl⟩ := build_eq_ok_iff.mp built
    exact ⟨forall₂_describes_rules_iff.mpr ⟨made, rfl⟩, rfl, rfl, rfl⟩
  · intro issues failed
    exact ⟨ne_nil_of_build failed, definitions_eq_nil_of_told failed⟩

def kinds : RuleFile where
  name := ['k']
  fragments := [(['f'], ['g'])]
  definitions := [
    ⟨['i'], true, .first, .before, none, some ['g'], .exact ['h'], .fragment ['f']⟩,
    ⟨['b'], true, .all, .replace, some ['o'], none, .delimited ['('] [')'], .text ['-']⟩,
    ⟨['p'], false, .all, .replace, none, none, .pattern ['x', '+'], .text ['y']⟩]
  expectations := [.absent ['x']]

theorem build_iff_makeable_kinds :
    (∃ set, kinds.build [] = .ok set ∧
      (∀ definition ∈ kinds.definitions, definition.IsMakeable kinds.fragments) ∧
      List.Forall₂ (Definition.Describes kinds.fragments) kinds.definitions set.rules ∧
      set.expectations = [.absent ['x']] ∧ set.name = ['k']) ∧
    RuleFile.build {} [] = .error [.emptyRuleList] ∧ ({} : RuleFile).definitions = [] := by
  constructor
  · obtain ⟨makeable, built, _⟩ := build_iff_makeable kinds []
    have succeeds : (kinds.build []).toOption.isSome = true := by decide +kernel
    obtain ⟨set, here⟩ := Option.isSome_iff_exists.mp succeeds
    have accepted := RuleSet.ok_of_toOption here
    obtain ⟨described, expected, name, _⟩ := built set accepted
    exact ⟨set, accepted, (makeable.mp ⟨set, accepted⟩).1, described, expected, name⟩
  · have failed : RuleFile.build {} [] = .error [.emptyRuleList] := rfl
    exact ⟨failed, ((build_iff_makeable {} []).2.2 _ failed).2 List.mem_cons_self⟩

end TextMigration.RuleFile
