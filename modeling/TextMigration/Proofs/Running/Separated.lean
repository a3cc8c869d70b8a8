import TextMigration.Proofs.Rewriting.Sparing
import TextMigration.Proofs.Running.Fold

/-!
Rule sets that are safe to run twice. What a rule has used up stays away when the rules behind it spare it
(`clear_of_kept`). Where every anchor is separate from every replacement, a rule takes all of its spans, no
rule makes a span for another, and so a second run finds nothing: `rerun_of_separated`. When needles alone are
looked for, what was put in also stays in, and the second run can tell that the work was done before.
-/

namespace TextMigration

section Cuts

variable {matcher : Matcher} {before : Option Char} {text body : Text} {cuts : Cuts}

-- Anchors in the filled text lie in its gaps; only the tail has room for all of them.
theorem Matcher.Cutting.filled_clear (cutting : Matcher.Cutting matcher before text cuts)
    (literal : matcher.isLiteral = true) (nonblank : matcher.isBlank = false)
    (apart : ∀ anchor ∈ matcher.anchors, Text.Separate anchor body) :
    ¬ Text.InOrder matcher.anchors (cuts.filled body) := by
  induction cutting with
  | done absent => exact (Matcher.first?_eq_none_iff literal nonblank).mp absent
  | next found _ ih =>
    intro inside
    rw [Cuts.filled_cons] at inside
    obtain ⟨early, late, split, before, behind⟩ := Text.InOrder.beside apart inside
    cases early with
    | nil =>
      rw [List.nil_append] at split
      rw [← split] at behind
      exact ih behind
    | cons anchor early =>
      have targets : matcher.literalTarget? = some anchor := by
        rw [Matcher.literalTarget?_eq_head?, split]
        rfl
      obtain ⟨lead, rest, gap, _⟩ := before
      exact (Matcher.first?_target targets found).2 ⟨lead, rest, gap.symm⟩

-- A text that is separate from the needle outlives the filling.
theorem Cuts.infix_filled {needle kept : Text} (spans : ∀ hit ∈ cuts.hits, hit.span = needle)
    (apart : Text.Separate needle kept) (inside : kept <:+: cuts.join) : kept <:+: cuts.filled body := by
  obtain ⟨hits, tail⟩ := cuts
  induction hits with
  | nil => exact inside
  | cons hit hits ih =>
    obtain ⟨lead, rest, same⟩ := inside
    rw [Cuts.join_cons, spans hit List.mem_cons_self] at same
    rw [Cuts.filled_cons, List.append_assoc]
    rcases apart.symm.beside same.symm with ⟨more, gap, _⟩ | ⟨more, behind, _⟩
    · exact ⟨lead, more ++ (body ++ Cuts.filled body ⟨hits, tail⟩), by rw [gap]; simp⟩
    · have others := ih (fun other member => spans other (List.mem_cons_of_mem hit member))
        ⟨more, rest, behind.symm⟩
      exact others.trans ⟨hit.gap ++ body, [], by simp⟩

end Cuts

namespace RuleSet

-- Nothing is asked of two anchors: one may well be in the other.
/-- Rules without gates that replace all spans of literal texts, and whose anchors are all separate from all
replacements. -/
structure IsSeparated (rules : List Rule) : Prop where
  plain : ∀ rule ∈ rules, rule.IsPlain
  all : ∀ rule ∈ rules, rule.scope = .all
  apart : ∀ rule ∈ rules, ∀ other ∈ rules, ∀ anchor ∈ rule.matcher.anchors,
    Text.Separate anchor other.replacement.body

instance (rules : List Rule) : Decidable (IsSeparated rules) :=
  decidable_of_iff ((∀ rule ∈ rules, rule.IsPlain) ∧ (∀ rule ∈ rules, rule.scope = .all) ∧
      ∀ rule ∈ rules, ∀ other ∈ rules, ∀ anchor ∈ rule.matcher.anchors,
        Text.Separate anchor other.replacement.body)
    ⟨fun ⟨a, b, c⟩ => ⟨a, b, c⟩, fun ⟨a, b, c⟩ => ⟨a, b, c⟩⟩

variable {rule other : Rule} {rules before after : List Rule} {text : Text}

/-- What a rule uses up stays away, if the rules behind it do not make it anew. -/
theorem clear_of_kept (kept : rules.Pairwise fun rule later => later.Spares rule.matcher.anchors)
    (split : rules = before ++ rule :: after)
    (clear : ¬ Text.InOrder rule.matcher.anchors (rule.apply (applyAll before text).1).1) :
    ¬ Text.InOrder rule.matcher.anchors (applyAll rules text).1 := by
  rw [split] at kept ⊢
  have spares := (List.pairwise_cons.mp (List.pairwise_append.mp kept).2.1).1
  rw [applyAll_append, applyAll_cons]
  apply applyAll_invariant fun text => ¬ Text.InOrder rule.matcher.anchors text
  · intro later follows text absent inside
    exact absent ((spares later follows).inOrder_of_apply inside)
  · exact clear

namespace IsSeparated

theorem tail (separated : IsSeparated (rule :: rules)) : IsSeparated rules where
  plain other member := separated.plain other (List.mem_cons_of_mem rule member)
  all other member := separated.all other (List.mem_cons_of_mem rule member)
  apart one first two second :=
    separated.apart one (List.mem_cons_of_mem rule first) two (List.mem_cons_of_mem rule second)

theorem filled (separated : IsSeparated rules) (member : rule ∈ rules) (text : Text) :
    (rule.apply text).1 = (rule.matcher.cut text).filled rule.replacement.body :=
  (separated.plain rule member).apply_all (separated.all rule member) text

theorem nonblank (separated : IsSeparated rules) (member : rule ∈ rules) : rule.matcher.isBlank = false := by
  have apart := separated.apart rule member rule member
  have literal := (separated.plain rule member).literal
  revert apart literal
  cases rule.matcher with
  | exact needle => simpa [Matcher.anchors, Matcher.isBlank] using fun apart _ => apart.left_nonempty
  | delimited start stop =>
    intro apart _
    have opening := (apart start (by simp [Matcher.anchors])).left_nonempty
    have closing := (apart stop (by simp [Matcher.anchors])).left_nonempty
    simp [Matcher.isBlank, opening, closing]
  | pattern => simp [Matcher.isLiteral]

-- A rule has nothing left to find once it has run.
theorem clear_apply (separated : IsSeparated rules) (member : rule ∈ rules) (text : Text) :
    ¬ Text.InOrder rule.matcher.anchors (rule.apply text).1 := by
  rw [separated.filled member]
  exact (Matcher.cut_cutting rule.matcher text).filled_clear (separated.plain rule member).literal
    (separated.nonblank member) (separated.apart rule member rule member)

-- No rule makes something for another to find.
theorem spares (separated : IsSeparated rules) (member : rule ∈ rules) (follows : other ∈ rules) :
    other.Spares rule.matcher.anchors where
  verbatim := ⟨(separated.plain other follows).replaces, Or.inl (separated.plain other follows).literal⟩
  spares anchor here := (separated.apart rule member other follows anchor here).spares _

theorem clear_applyAll (separated : IsSeparated rules) (text : Text) :
    ∀ rule ∈ rules, ¬ Text.InOrder rule.matcher.anchors (applyAll rules text).1 := by
  intro rule member
  obtain ⟨before, after, split⟩ := List.append_of_mem member
  have kept : rules.Pairwise fun rule later => later.Spares rule.matcher.anchors :=
    List.pairwise_of_forall_mem_list fun first here second follows => separated.spares here follows
  exact clear_of_kept kept split (separated.clear_apply member _)

theorem apply_clear (separated : IsSeparated rules) (member : rule ∈ rules)
    (clear : ¬ Text.InOrder rule.matcher.anchors text) :
    rule.apply text = (text, { rule.blankResult with
      alreadyApplied := rule.replacementPresent text
      nearMiss := rule.matcher.literalTarget?.bind (NearMiss.nearest text) }) := by
  have plain := separated.plain rule member
  apply Rule.apply_of_missing (plain.isOpen text)
  exact (Matcher.hits_eq_nil_iff plain.literal (separated.nonblank member)).mpr clear

-- A needle takes no replacement away.
theorem infix_step (separated : IsSeparated rules) (member : rule ∈ rules) (follows : other ∈ rules)
    {needle : Text} (exact : other.matcher = .exact needle) (inside : rule.replacement.body <:+: text) :
    rule.replacement.body <:+: (other.apply text).1 := by
  have apart : Text.Separate needle rule.replacement.body :=
    separated.apart other follows rule member needle (by simp [exact, Matcher.anchors])
  rw [separated.filled follows, exact]
  apply Cuts.infix_filled (Matcher.span_of_exact needle text) apart
  rwa [Matcher.join_cut]

theorem infix_applyAll (separated : IsSeparated rules)
    (needles : ∀ rule ∈ rules, ∃ needle, rule.matcher = .exact needle) (text : Text)
    (hits : ∀ result ∈ (applyAll rules text).2, result.isRequiredMiss = false) :
    ∀ rule ∈ rules, rule.required = true → rule.replacement.body <:+: (applyAll rules text).1 := by
  induction rules generalizing text with
  | nil =>
    intro rule member
    simp at member
  | cons first rules ih =>
    rw [applyAll_cons] at hits ⊢
    intro rule member required
    rcases List.mem_cons.mp member with same | later
    · subst same
      apply applyAll_invariant fun text => rule.replacement.body <:+: text
      · intro other follows text inside
        obtain ⟨needle, exact⟩ := needles other (List.mem_cons_of_mem rule follows)
        exact separated.infix_step member (List.mem_cons_of_mem rule follows) exact inside
      · have found : (rule.matcher.cut text).hits ≠ [] := by
          intro missing
          have miss := hits _ List.mem_cons_self
          rw [Rule.apply_of_missing ((separated.plain rule member).isOpen text) missing] at miss
          simp [Application.isRequiredMiss, Rule.blankResult, required] at miss
        obtain ⟨hit, more, split⟩ := List.exists_cons_of_ne_nil found
        rw [separated.filled member, Cuts.filled, split, List.flatMap_cons]
        exact ⟨hit.gap, _, by simp only [List.append_assoc]; rfl⟩
    · exact ih separated.tail (fun other member => needles other (List.mem_cons_of_mem first member)) _
        (fun result member => hits result (List.mem_cons_of_mem _ member)) rule later required

end IsSeparated

/-- The second run finds nothing, whatever became of the first. If only needles are looked for and the first
run succeeded, the second one tells that the work was done. -/
theorem rerun_of_separated (set : RuleSet) (document : Text) (separated : IsSeparated set.rules) :
    let output := (set.run document).1
    let again := set.run output
    again.2.results.map Application.ruleId = set.rules.map Rule.id ∧
      (∀ result ∈ again.2.results, result.status = .noMatch) ∧
      again.2.totalOccurrences = 0 ∧ again.1 = output ∧
      ((∀ rule ∈ set.rules, ∃ needle, rule.matcher = .exact needle) →
        (set.run document).2.isSuccess = true → again.2.alreadyMigrated = true) := by
  intro output again
  have clear : ∀ rule ∈ set.rules, ¬ Text.InOrder rule.matcher.anchors output :=
    separated.clear_applyAll document
  have missed (rule : Rule) (member : rule ∈ set.rules) := separated.apply_clear member (clear rule member)
  have idle : applyAll set.rules output = _ := applyAll_idle fun rule member => by rw [missed rule member]
  have same : again.1 = output := by rw [run_text, idle]
  have results : again.2.results = set.rules.map fun rule => (rule.apply output).2 := by
    rw [run_results, idle]
  refine ⟨?_, ?_, ?_, same, ?_⟩
  · rw [results, List.map_map]
    apply List.map_congr_left
    intro rule member
    rw [Function.comp_apply, missed rule member]
    rfl
  · rw [results]
    intro result member
    obtain ⟨rule, inside, made⟩ := List.mem_map.mp member
    rw [← made, missed rule inside]
    rfl
  · have none : ∀ result ∈ again.2.results, result.occurrences = 0 := by
      rw [results]
      intro result member
      obtain ⟨rule, inside, made⟩ := List.mem_map.mp member
      rw [← made, missed rule inside]
      rfl
    exact Report.totalOccurrences_eq_zero none
  · intro needles success
    simp only [Report.isSuccess, Bool.and_eq_true, List.isEmpty_iff, Bool.not_eq_true',
      List.any_eq_false, Bool.not_eq_true] at success
    obtain ⟨kept, hits⟩ := success
    have unviolated : again.2.violations = [] := by
      rw [run_violations, same, ← kept]
      rfl
    have unchanged : again.2.changed = false := run_unchanged same
    have inserted := separated.infix_applyAll needles document hits
    simp only [Report.alreadyMigrated, unchanged, unviolated, Bool.not_false, List.isEmpty_nil, Bool.and_self,
      Bool.true_and, List.all_eq_true, List.mem_filter, and_imp]
    rw [results]
    intro result member miss
    obtain ⟨rule, inside, made⟩ := List.mem_map.mp member
    rw [missed rule inside] at made
    have required : rule.required = true := by
      rw [← made] at miss
      simpa [Application.isRequiredMiss, Rule.blankResult] using miss
    have present : rule.replacement.body <:+: output := inserted rule inside required
    obtain ⟨needle, exact⟩ := needles rule inside
    have apart := separated.apart rule inside rule inside needle (by simp [exact, Matcher.anchors])
    rw [← made]
    exact Rule.replacementPresent_iff.mpr ⟨apart.right_nonempty, present⟩

theorem rerun_of_separated_letters :
    let set : RuleSet := ⟨['l', 'e', 't', 't', 'e', 'r', 's'], none,
      [⟨['o', 'n', 'e'], .exact ['a'], .text ['x'], .all, .replace, none, true⟩,
        ⟨['t', 'w', 'o'], .exact ['b'], .text ['y'], .all, .replace, none, true⟩], []⟩
    let output := (set.run ['a', 'b', 'a']).1
    build set.name set.rules set.expectations = .ok set ∧ IsSeparated set.rules ∧
      output = ['x', 'y', 'x'] ∧ (set.run output).1 = output ∧ (set.run output).2.alreadyMigrated = true := by
  intro set output
  have separated : IsSeparated set.rules := by decide
  obtain ⟨_, _, _, same, migrated⟩ := rerun_of_separated set ['a', 'b', 'a'] separated
  refine ⟨rfl, separated, by decide, same, migrated ?_ (by decide)⟩
  simp [set]

end RuleSet

end TextMigration
