import TextMigration.Proofs.Running.Ordered
import TextMigration.Proofs.Text.Encoding
import TextMigration.RuleFile.Builtin

/-!
The migration of the landing page. Its rules are in order: what one of them looks for, no later one writes,
and the last one closes up the tags that the others are anchored on. So there is no page on which it leaves a
colour that it fills over, or a loose closing tag (`landing_clears`), and on a page that it has migrated it
finds nothing more to do (`landing_rerun`).
-/

namespace TextMigration.RuleSet

def looseClose : Pattern.Loose := ⟨"</section".toList, Unicode.blank, ">".toList⟩

/-- What makes the migration work: its rules are in order, one of them takes every `bg-violet-500` that is left
to it, the last one takes loose closing tags, only the anchor of the hero is taken once and without a guard, and
what the two rules remove is expected to be absent. -/
structure IsLanding (set : RuleSet) : Prop where
  ordered : set.IsOrdered looseClose
  fill : ∃ rule ∈ set.rules, rule.Exhausts ∧ rule.scope = .all ∧
    rule.matcher = .exact "bg-violet-500".toList
  close : ∃ rule ∈ set.rules.getLast?, rule.Tightens looseClose ∧
    ∃ pattern ∈ (Pattern.compile "</section\\s+>".toList).toOption, rule.matcher = .pattern pattern
  single : ∀ rule ∈ set.rules, rule.precondition = none → rule.scope = .first →
    rule.id = "hero-anchor".toList
  expected : ∀ needle ∈ ["bg-violet-500".toList, "</section >".toList],
    Expectation.absent needle ∈ set.expectations

instance (set : RuleSet) : Decidable set.IsLanding :=
  decidable_of_iff (set.IsOrdered looseClose ∧
      (∃ rule ∈ set.rules, rule.Exhausts ∧ rule.scope = .all ∧
        rule.matcher = .exact "bg-violet-500".toList) ∧
      (∃ rule ∈ set.rules.getLast?, rule.Tightens looseClose ∧
        ∃ pattern ∈ (Pattern.compile "</section\\s+>".toList).toOption, rule.matcher = .pattern pattern) ∧
      (∀ rule ∈ set.rules, rule.precondition = none → rule.scope = .first →
        rule.id = "hero-anchor".toList) ∧
      ∀ needle ∈ ["bg-violet-500".toList, "</section >".toList],
        Expectation.absent needle ∈ set.expectations)
    ⟨fun ⟨a, b, c, d, e⟩ => ⟨a, b, c, d, e⟩, fun ⟨a, b, c, d, e⟩ => ⟨a, b, c, d, e⟩⟩

def landingPage : Text :=
  ["const ScrollDownIcon = () => null;",
    "<section className=\"relative min-h-[100vh] flex flex-col items-center justify-center pt-24 pb-12 px-6 overflow-hidden\">",
    "                \x7b/* Animated Scroll Indicator */\x7d",
    "                    </motion.div>",
    "                </motion.div>",
    "<p className=\"bg-violet-500\" />",
    "</section >"].flatMap fun line => Text.ofString line ++ ['\n']

-- The rule file is read, and its rules are looked over, once for all that follows. Its lines are unpacked before,
-- since most of the time would be spent on their bytes.
theorem landing_loads : ∃ set, Builtin.landingMonochrome.load = .ok set ∧ set.IsLanding ∧
    (set.run landingPage).2.isSuccess = true ∧
    ((set.run landingPage).2.result? "hero-anchor".toList).map Application.found = some 1 ∧
    (set.run landingPage).1 ≠ landingPage := by
  have loads : ∃ lines, Text.Unpacked Builtin.landingLines lines ∧
      ∃ set ∈ (RuleFile.loadNamed Builtin.landingMonochrome.name
        (lines.flatMap fun line => line ++ ['\n'])).toOption, set.IsLanding ∧
      (set.run landingPage).2.isSuccess = true ∧
      ((set.run landingPage).2.result? "hero-anchor".toList).map Application.found = some 1 ∧
      (set.run landingPage).1 ≠ landingPage := by
    apply Exists.intro
    apply And.intro
    · unfold Builtin.landingLines
      repeat constructor
    · decide +kernel
  obtain ⟨lines, unpacked, set, loaded, facts⟩ := loads
  rw [← unpacked.lines_eq] at loaded
  exact ⟨set, ok_of_toOption loaded, facts⟩

/-- Whatever the document and whatever became of the rules on it, there is no `bg-violet-500` in the end and no
closing tag of a section with blanks in it, nor anything else in which the pattern for such tags would find a
match; so neither of the two expectations that say so is ever violated. -/
theorem landing_clears :
    ∃ set pattern, Builtin.landingMonochrome.load = .ok set ∧
      Pattern.compile "</section\\s+>".toList = .ok pattern ∧
      .absent "bg-violet-500".toList ∈ set.expectations ∧ .absent "</section >".toList ∈ set.expectations ∧
      ∀ document,
        let output := (set.run document).1
        ¬ "bg-violet-500".toList <:+: output ∧
        (∀ piece, looseClose.Reads piece → ¬ piece <:+: output) ∧
        (∀ piece before, piece <:+: output → pattern.first? before piece = none) ∧
        ∀ violation ∈ (set.run document).2.violations,
          violation.expectation ≠ .absent "bg-violet-500".toList ∧
          violation.expectation ≠ .absent "</section >".toList := by
  obtain ⟨set, loaded, landing, _⟩ := landing_loads
  obtain ⟨fill, member, exhausts, all, fills⟩ := landing.fill
  obtain ⟨close, last, tightens, pattern, compiled, closes⟩ := landing.close
  refine ⟨set, pattern, loaded, ok_of_toOption compiled, landing.expected _ List.mem_cons_self,
    landing.expected _ (List.mem_cons_of_mem _ List.mem_cons_self), ?_⟩
  intro document output
  have unfilled : ¬ "bg-violet-500".toList <:+: output := by
    obtain ⟨before, after, split⟩ := List.append_of_mem member
    have clear : ¬ Text.InOrder fill.matcher.anchors output :=
      clear_of_kept landing.ordered.kept split (exhausts.clear_apply (Or.inl all))
    rw [fills] at clear
    exact fun inside => clear (Text.inOrder_singleton.mpr inside)
  have tight : ∀ piece, looseClose.Reads piece → ¬ piece <:+: output := reads_absent last tightens document
  refine ⟨unfilled, tight, ?_, ?_⟩
  · intro piece before inside
    exact (Pattern.first?_eq_none_iff (tightens.recognizes closes)).mpr fun other reads within =>
      tight other reads (within.trans inside)
  · have spaced : looseClose.Reads "</section >".toList := ⟨[' '], by simp, by simp; decide, by decide⟩
    have filled : Expectation.IsMet output (.absent "bg-violet-500".toList) := unfilled
    have closed : Expectation.IsMet output (.absent "</section >".toList) := tight _ spaced
    intro violation found
    exact ⟨Expectation.ne_of_mem_check (by decide) filled violation found,
      Expectation.ne_of_mem_check (by decide) closed violation found⟩

/-- When a run succeeds and has found the anchor of the hero once, a second run takes nothing and gives the
document back as it is. -/
theorem landing_rerun :
    ∃ set, Builtin.landingMonochrome.load = .ok set ∧
      ∀ (document : Text) (hero : Application), (set.run document).2.isSuccess = true →
        (set.run document).2.result? "hero-anchor".toList = some hero → hero.found = 1 →
        let output := (set.run document).1
        (set.run output).2.totalOccurrences = 0 ∧ (set.run output).1 = output := by
  obtain ⟨set, loaded, landing, _⟩ := landing_loads
  have acceptable : IsAcceptable set.rules set.expectations := RuleFile.acceptable_of_loadNamed loaded
  refine ⟨set, loaded, ?_⟩
  intro document hero success here once
  apply landing.ordered.rerun acceptable success
  intro before rule after split exhausts first
  have member : rule ∈ set.rules := by
    rw [split]
    exact List.mem_append_right before List.mem_cons_self
  have result := result?_run acceptable.distinct split document
  rw [landing.single rule member exhausts.plain.ungated first, here] at result
  rw [← Option.some.inj result, once]

theorem landing_rerun_page :
    ∃ set, Builtin.landingMonochrome.load = .ok set ∧
      let output := (set.run landingPage).1
      (set.run landingPage).2.isSuccess = true ∧ output ≠ landingPage ∧
      (set.run output).2.totalOccurrences = 0 ∧ (set.run output).1 = output := by
  obtain ⟨set, loaded, again⟩ := landing_rerun
  obtain ⟨other, same, _, success, found, changed⟩ := landing_loads
  obtain rfl : set = other := Except.ok.inj (loaded.symm.trans same)
  obtain ⟨hero, here, once⟩ := Option.map_eq_some_iff.mp found
  exact ⟨set, loaded, success, changed, again landingPage hero success here once⟩

end TextMigration.RuleSet
