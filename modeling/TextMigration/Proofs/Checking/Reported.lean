import TextMigration.Proofs.Checking.Described

/-!
Which of its faults a rule file is refused with. What keeps a definition from being made into a rule is always
told. Ids and matchers are looked at in the rules that were made, so an id that is used twice, a blank id or a
blank matcher is told only as far as nothing else is wrong with the definitions that have it: `build_reports`.
The file is refused all the same.
-/

namespace TextMigration.RuleFile

def Target.isBlank : Target → Bool
  | exact text => text.isEmpty
  | delimited start stop => start.isEmpty || stop.isEmpty
  | pattern regex => regex.isEmpty

theorem source_of_compile {regex : Text} {pattern : Pattern} (compiled : Pattern.compile regex = .ok pattern) :
    pattern.source = regex := by
  rw [Pattern.compile] at compiled
  split at compiled
  · simp at compiled
  · split at compiled
    · rw [← Except.ok.inj compiled]
    · simp at compiled

theorem Target.LooksFor.isBlank_eq {target : Target} {matcher : Matcher} (looks : target.LooksFor matcher) :
    matcher.isBlank = target.isBlank := by
  cases looks with
  | exact text => rfl
  | delimited start stop => rfl
  | pattern compiled => rw [Matcher.isBlank, Target.isBlank, source_of_compile compiled]

def made (file : RuleFile) : List Definition :=
  file.definitions.filter fun definition => (definition.issues file.fragments).isEmpty

variable {file : RuleFile} {default id : Text} {issues : List Issue} {issue : Issue}

theorem forall₂_describes_made :
    List.Forall₂ (Definition.Describes file.fragments) file.made file.rules := by
  apply Definition.forall₂_describes_iff.mpr
  constructor
  · apply List.flatMap_eq_nil_iff.mpr
    intro definition member
    simpa using (List.mem_filter.mp member).2
  · rw [made, List.filterMap_filter, rules]
    apply List.filterMap_congr
    intro definition _
    by_cases clean : definition.issues file.fragments = []
    · simp [clean]
    · have none : definition.rule? file.fragments = none := by
        rw [Option.eq_none_iff_forall_ne_some]
        intro rule first
        exact clean (Definition.issues_eq_nil_iff.mpr ⟨rule, first⟩)
      simp [clean, none]

theorem made_eq_of_clean (clean : file.definitionIssues = []) : file.made = file.definitions := by
  apply List.filter_eq_self.mpr
  intro definition member
  simpa using List.flatMap_eq_nil_iff.mp clean definition member

-- What is read off a rule and can be read off its definition is counted in either.
theorem countP_rules {ofRule : Rule → Bool} {ofDefinition : Definition → Bool}
    (same : ∀ definition rule, definition.Describes file.fragments rule → ofRule rule = ofDefinition definition) :
    file.rules.countP ofRule = file.made.countP ofDefinition := by
  have described : List.Forall₂ (Definition.Describes file.fragments) file.made file.rules :=
    forall₂_describes_made
  generalize file.made = definitions, file.rules = rules at described
  induction described with
  | nil => rfl
  | cons first _ ih => rw [List.countP_cons, List.countP_cons, ih, same _ _ first]

section Count

def madeIssues (file : RuleFile) : List Issue := RuleSet.ruleIssues [] file.rules

theorem count_duplicateId (named : id.trim ≠ []) :
    file.madeIssues.count (.duplicateId id) = (file.made.countP fun definition => definition.id = id) - 1 := by
  have counted : (file.rules.countP fun rule => rule.id = id) =
      file.made.countP fun definition => definition.id = id := by
    apply countP_rules
    intro definition rule described
    rw [described.id]
  rw [madeIssues, RuleSet.count_duplicateId named, counted]
  simp

theorem count_missingId :
    file.madeIssues.count (.missingField none .id) =
      file.made.countP fun definition => definition.id.trim.isEmpty := by
  rw [madeIssues, RuleSet.count_missingId]
  apply countP_rules
  intro definition rule described
  rw [described.id]

theorem count_missingMatcher (id : Text) :
    file.madeIssues.count (.missingField (some id) .matcher) =
      file.made.countP fun definition => definition.id = id ∧ definition.target.isBlank = true := by
  rw [madeIssues, RuleSet.count_missingMatcher]
  apply countP_rules
  intro definition rule described
  rw [described.id, described.matcher.isBlank_eq]

end Count

-- Issues of rules are not left out, and no definition has any.
theorem count_of_build (failed : file.build default = .error issues) (ofRule : issue.subject = .rule) :
    issues.count issue = file.madeIssues.count issue := by
  obtain ⟨_, rfl⟩ := build_eq_error_iff.mp failed
  have undefined : issue ∉ file.definitionIssues := by
    intro told
    rw [subject_of_mem_definitionIssues told] at ofRule
    simp at ofRule
  have told : file.isTold issue = true := by
    have other : issue ≠ .emptyRuleList := by
      rintro rfl
      simp [Issue.subject] at ofRule
    simp [isTold, other]
  rw [List.count_append, List.count_eq_zero.mpr undefined, Nat.zero_add, List.count_filter told,
    RuleSet.count_issues ofRule, madeIssues]

/-- A file is refused when its definitions would have an issue as rules, whether they can be made or not. -/
theorem build_fails_of_told (ofRule : issue.subject = .rule)
    (told : file.made = file.definitions → 0 < file.madeIssues.count issue) :
    ∃ issues, file.build default = .error issues ∧ issues.count issue = file.madeIssues.count issue := by
  cases built : file.build default with
  | error issues => exact ⟨issues, rfl, count_of_build built ofRule⟩
  | ok set =>
    obtain ⟨clean, accepted, _⟩ := build_eq_ok_iff.mp built
    have counted : (RuleSet.issues file.rules file.expectations).count issue = file.madeIssues.count issue :=
      RuleSet.count_issues ofRule
    have some := told (made_eq_of_clean clean)
    rw [← counted, accepted] at some
    simp at some

/-- A file with an id that two definitions have, a blank id or a blank matcher is refused. Of the definitions
that can be made into rules each one with a blank id and each one with a blank matcher is told of, and each one
with the same id but the first. What keeps a definition from being made into a rule is always told. -/
theorem build_reports (file : RuleFile) (default : Text) :
    (∀ id, id.trim ≠ [] → 2 ≤ (file.definitions.countP fun definition => definition.id = id) →
      ∃ issues, file.build default = .error issues ∧
        issues.count (.duplicateId id) = (file.made.countP fun definition => definition.id = id) - 1) ∧
    ((∃ definition ∈ file.definitions, definition.id.trim = []) →
      ∃ issues, file.build default = .error issues ∧
        issues.count (.missingField none .id) =
          file.made.countP fun definition => definition.id.trim.isEmpty) ∧
    (∀ id, (∃ definition ∈ file.definitions, definition.id = id ∧ definition.target.isBlank = true) →
      ∃ issues, file.build default = .error issues ∧
        issues.count (.missingField (some id) .matcher) =
          file.made.countP fun definition => definition.id = id ∧ definition.target.isBlank = true) ∧
    ∀ issues, file.build default = .error issues →
      ∀ definition ∈ file.definitions, ∀ issue ∈ definition.issues file.fragments, issue ∈ issues := by
  refine ⟨?_, ?_, ?_, ?_⟩
  · intro id named twice
    rw [← count_duplicateId named]
    apply build_fails_of_told rfl
    intro all
    rw [count_duplicateId named, all]
    omega
  · rintro ⟨definition, member, blank⟩
    rw [← count_missingId]
    apply build_fails_of_told rfl
    intro all
    rw [count_missingId, all]
    exact List.countP_pos_iff.mpr ⟨definition, member, by simp [blank]⟩
  · rintro id ⟨definition, member, same, blank⟩
    rw [← count_missingMatcher]
    apply build_fails_of_told rfl
    intro all
    rw [count_missingMatcher, all]
    exact List.countP_pos_iff.mpr ⟨definition, member, by simp [same, blank]⟩
  · intro issues failed definition member issue own
    obtain ⟨_, rfl⟩ := build_eq_error_iff.mp failed
    exact List.mem_append_left _ (List.mem_flatMap.mpr ⟨definition, member, own⟩)

def crowded : RuleFile where
  definitions := [
    ⟨['a'], true, .all, .replace, none, none, .exact ['x'], .fragment ['f']⟩,
    ⟨['a'], true, .all, .replace, none, none, .exact ['x'], .text ['y']⟩,
    ⟨['a'], true, .all, .replace, none, none, .exact [], .text ['y']⟩,
    ⟨[' '], true, .all, .replace, none, none, .exact ['p'], .text ['q']⟩]

theorem build_reports_crowded :
    2 ≤ (crowded.definitions.countP fun definition => definition.id = ['a']) ∧
      ∃ issues, crowded.build [] = .error issues ∧ issues.count (.duplicateId ['a']) = 1 ∧
        issues.count (.missingField none .id) = 1 ∧ issues.count (.missingField (some ['a']) .matcher) = 1 ∧
        .unknownFragment ['a'] ['f'] ∈ issues := by
  have twice : 2 ≤ (crowded.definitions.countP fun definition => definition.id = ['a']) := by decide
  obtain ⟨duplicates, blanks, bare, own⟩ := build_reports crowded []
  obtain ⟨issues, failed, told⟩ := duplicates ['a'] (by decide) twice
  obtain ⟨_, again, unnamed⟩ := blanks (by decide)
  obtain rfl := Except.error.inj (failed.symm.trans again)
  obtain ⟨_, again, unmatched⟩ := bare ['a'] (by decide)
  obtain rfl := Except.error.inj (failed.symm.trans again)
  exact ⟨twice, issues, failed, told, unnamed, unmatched, own issues failed _ List.mem_cons_self _ (by decide)⟩

/-- A definition with a blank id and nothing to look for, but no fragment either; and two with one id, the first
of which has two gates. -/
def dropped : RuleFile where
  definitions := [
    ⟨[' '], true, .all, .replace, none, none, .exact [], .fragment ['b']⟩,
    ⟨['a'], true, .all, .replace, some ['p'], some ['q'], .exact ['p'], .text ['q']⟩,
    ⟨['a'], true, .all, .replace, none, none, .exact ['x'], .text ['y']⟩]

/-- Faults of definitions that cannot be made go untold: neither the id that is used twice nor the blank one nor
the blank matcher is among the issues. -/
theorem build_dropped_silent :
    (¬ ∀ (file : RuleFile) (default id : Text), id.trim ≠ [] →
      2 ≤ (file.definitions.countP fun definition => definition.id = id) →
      ∃ issues, file.build default = .error issues ∧ .duplicateId id ∈ issues) ∧
    (¬ ∀ (file : RuleFile) (default : Text), ∀ definition ∈ file.definitions, definition.id.trim = [] →
      ∃ issues, file.build default = .error issues ∧ .missingField none .id ∈ issues) ∧
    ¬ ∀ (file : RuleFile) (default : Text), ∀ definition ∈ file.definitions, definition.target.isBlank = true →
      ∃ issues, file.build default = .error issues ∧ .missingField (some definition.id) .matcher ∈ issues := by
  have refused : dropped.build [] = .error [.unknownFragment [' '] ['b'], .bothGates ['a']] := by rfl
  have only : ∀ issue, (∃ issues, dropped.build [] = .error issues ∧ issue ∈ issues) →
      issue = .unknownFragment [' '] ['b'] ∨ issue = .bothGates ['a'] := by
    rintro issue ⟨issues, failed, told⟩
    obtain rfl := Except.error.inj (refused.symm.trans failed)
    simpa using told
  refine ⟨?_, ?_, ?_⟩
  · intro reported
    have told := only _ (reported dropped [] ['a'] (by decide) (by decide))
    simp at told
  · intro reported
    have told := only _ (reported dropped [] _ List.mem_cons_self (by decide))
    simp at told
  · intro reported
    have told := only _ (reported dropped [] _ List.mem_cons_self (by decide))
    simp at told

end TextMigration.RuleFile
