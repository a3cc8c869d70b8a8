import TextMigration.Proofs.Rewriting.SelfMatch
import TextMigration.Proofs.Rewriting.Splice
import TextMigration.RuleSet

/-!
Whether a rule would take what it inserts. That is asked before there is a match, of the replacement as it is
written; but a template is put in with each pair of dollar signs taken for one. So a rule that does not count as
taking its own output inserts nothing that it would take, unless its pattern has a match in the undoubled template
(`inserted_matches_iff`). Such rules there are (`inserted_pair_matches`).
-/

namespace TextMigration.Rule

open Pattern.Template (undoubled)

variable {rule : Rule} {text : Text} {hit : Hit}

/-- The pattern of the rule has a match in its template, once each pair of dollar signs is taken for one. -/
def UndoublesToMatch (rule : Rule) : Prop :=
  ∃ p template, rule.matcher = .pattern p ∧ rule.replacement = .text template ∧
    rule.matcher.isMatch (undoubled template) = true

/-- Whatever text the rule is applied to, it would take nothing in the texts that it inserts there. -/
def InsertsNoMatch (rule : Rule) : Prop :=
  ∀ text, (rule.apply text).2.status = .applied →
    ∀ hit ∈ rule.taken (rule.matcher.cut text).hits, rule.matcher.isMatch (rule.insertion hit) = false

theorem taken_subset (rule : Rule) (hits : List Hit) : rule.taken hits ⊆ hits := by
  rw [taken]
  cases rule.scope with
  | all => exact List.Subset.refl hits
  | first => exact List.take_subset 1 hits

theorem taken_ne_nil {hits : List Hit} (some : hits ≠ []) : rule.taken hits ≠ [] := by
  rw [taken]
  cases rule.scope with
  | all => exact some
  | first => simpa using some

-- What is inserted is the replacement as it is written, or a template that says the same at every match.
theorem insertion_matches_iff (uncaught : ¬ rule.matcher.Catches rule.replacement)
    (member : hit ∈ (rule.matcher.cut text).hits) :
    rule.matcher.isMatch (rule.insertion hit) = true ↔ rule.UndoublesToMatch := by
  have inserts := insertion_inserts rule text hit member
  generalize rule.insertion hit = inserted at inserts ⊢
  cases inserts with
  | verbatim literal =>
    rw [Matcher.isMatch_of_uncaught uncaught]
    constructor
    · intro found
      simp at found
    · rintro ⟨p, template, matcher, replacement, _⟩
      exact absurd replacement (literal p template matcher)
  | @expanded p template found matcher replacement _ _ =>
    have plain : Pattern.Template.refersToGroups template = false := by
      rw [← Bool.not_eq_true, Pattern.Template.refersToGroups_iff]
      rw [matcher, replacement] at uncaught
      exact fun reference => uncaught (Or.inl reference)
    rw [Pattern.Template.expand_unreferring _ plain]
    constructor
    · intro matched
      exact ⟨p, template, matcher, replacement, matched⟩
    · rintro ⟨_, other, _, again, matched⟩
      rw [replacement, Replacement.text.injEq] at again
      rwa [again]

theorem not_undoublesToMatch (uncaught : ¬ rule.matcher.Catches rule.replacement)
    (unpaired : ¬ ['$', '$'] <:+: rule.replacement.body) : ¬ rule.UndoublesToMatch := by
  rintro ⟨p, template, _, replacement, matched⟩
  have missed := Matcher.isMatch_of_uncaught uncaught
  rw [replacement] at missed unpaired
  have same : undoubled template = template := Pattern.Template.undoubled_unpaired unpaired
  rw [same] at matched
  exact absurd (matched.symm.trans missed) (by decide)

/-- A rule has no guard and does not count as taking its own output. Wherever it is applied, it would take a text
that it inserts exactly when its pattern has a match in its undoubled template. So it never inserts anything that it
would take, if there is no such match or no text that it applies to; and there is none if its replacement has no
pair of dollar signs. -/
theorem inserted_matches_iff (unguarded : ∀ needle, rule.precondition ≠ some (.lacks needle))
    (kept : rule.rematchesOwnOutput = false) :
    (∀ text, (rule.apply text).2.status = .applied →
      ∀ hit ∈ rule.taken (rule.matcher.cut text).hits,
        (rule.matcher.isMatch (rule.insertion hit) = true ↔ rule.UndoublesToMatch)) ∧
    (rule.InsertsNoMatch ↔
      ¬ rule.UndoublesToMatch ∨ ∀ text, (rule.apply text).2.status ≠ .applied) ∧
    (¬ ['$', '$'] <:+: rule.replacement.body → rule.InsertsNoMatch) := by
  obtain ⟨_, uncaught⟩ := kept_iff.mp kept unguarded
  have exactly : ∀ text, ∀ hit ∈ rule.taken (rule.matcher.cut text).hits,
      (rule.matcher.isMatch (rule.insertion hit) = true ↔ rule.UndoublesToMatch) :=
    fun text hit member => insertion_matches_iff uncaught (taken_subset rule _ member)
  have never (none : ¬ rule.UndoublesToMatch) : rule.InsertsNoMatch := by
    intro text _ hit member
    rw [← Bool.not_eq_true, exactly text hit member]
    exact none
  refine ⟨fun text _ => exactly text, ⟨?_, ?_⟩, fun unpaired => never (not_undoublesToMatch uncaught unpaired)⟩
  · intro clear
    rw [or_iff_not_imp_left, not_not]
    intro undoubles text applied
    -- A rule that is applied takes a hit at least.
    have some : rule.taken (rule.matcher.cut text).hits ≠ [] := taken_ne_nil (status_apply_iff.mp applied).2
    obtain ⟨hit, member⟩ := List.exists_mem_of_ne_nil _ some
    have matched := (exactly text hit member).mpr undoubles
    rw [clear text applied hit member] at matched
    simp at matched
  · rintro (none | idle)
    · exact never none
    · exact fun text applied => absurd applied (idle text)

def price : Rule :=
  ⟨['p'], .pattern ⟨['U', 'S', 'D'], #[.chars [(85, 85)], .chars [(83, 83)], .chars [(68, 68)], .done], []⟩,
    .text ['$', '$'], .all, .replace, none, true⟩

theorem inserted_matches_price :
    (∀ needle, price.precondition ≠ some (.lacks needle)) ∧ price.rematchesOwnOutput = false ∧
      price.InsertsNoMatch ∧ (price.apply ['U', 'S', 'D', '5']).1 = ['$', '5'] := by
  have unguarded : ∀ needle, price.precondition ≠ some (.lacks needle) := by simp [price]
  have kept : price.rematchesOwnOutput = false := by decide +kernel
  refine ⟨unguarded, kept, (inserted_matches_iff unguarded kept).2.1.mpr (Or.inl ?_), by decide +kernel⟩
  rintro ⟨p, template, _, replacement, matched⟩
  obtain rfl : ['$', '$'] = template := Replacement.text.inj replacement
  revert matched
  decide +kernel

def growing : Rule :=
  ⟨['g'], .pattern ⟨['a', '\\', '$', 'b'], #[.chars [(97, 97)], .chars [(36, 36)], .chars [(98, 98)], .done], []⟩,
    .text ['a', '$', '$', 'b', 'b'], .all, .replace, none, true⟩

/-- A rule that is accepted and takes what it inserts itself: the text grows with every run. -/
theorem inserted_pair_matches :
    Pattern.compile ['a', '\\', '$', 'b'] = .ok
        ⟨['a', '\\', '$', 'b'], #[.chars [(97, 97)], .chars [(36, 36)], .chars [(98, 98)], .done], []⟩ ∧
      RuleSet.issues [growing] [] = [] ∧
      (growing.apply ['a', '$', 'b']).1 = ['a', '$', 'b', 'b'] ∧
      (growing.apply ['a', '$', 'b', 'b']).1 = ['a', '$', 'b', 'b', 'b'] ∧
      ¬ ∀ rule : Rule, (∀ needle, rule.precondition ≠ some (.lacks needle)) →
        rule.rematchesOwnOutput = false → rule.InsertsNoMatch := by
  refine ⟨by decide +kernel, by decide +kernel, by decide +kernel, by decide +kernel, ?_⟩
  intro clear
  have missed := clear growing (by simp [growing]) (by decide +kernel) ['a', '$', 'b'] (by decide +kernel)
  revert missed
  decide +kernel

end TextMigration.Rule
