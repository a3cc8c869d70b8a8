import TextMigration.CommandLine.Run
import TextMigration.Proofs.Checking.Accepted
import TextMigration.Proofs.Rewriting.Verdict
import TextMigration.Proofs.Running.Fold

/-!
Checking a document again after its migration. That the second run changes nothing is not enough for the
check to pass: a required rule that finds nothing then needs its own replacement in the text, as it is
written. `recheck_passes_iff` says for which rules that works out. It does not for a rule that deletes, nor
for one whose replacement a later rule has rewritten.
-/

namespace TextMigration

namespace Rule

variable {rule : Rule} {text : Text}

def ReplacementIn (rule : Rule) (text : Text) : Prop :=
  rule.replacement.body ≠ [] ∧ rule.replacement.body <:+: text

theorem served_or_work_iff
    (admitted : rule.ReplacementIn text → ∀ needle, rule.precondition = some (.contains needle) → needle <:+: text) :
    rule.IsServed text ∨ rule.FindsItsWork text ↔ rule.IsServed text ∨ rule.ReplacementIn text := by
  constructor
  · rintro (served | work)
    · exact .inl served
    · exact .inr ⟨work.some, work.present⟩
  · rintro (served | standing)
    · exact .inl served
    · cases opened : rule.isOpen text with
      | false =>
        obtain ⟨gate, here, fails, _⟩ := apply_of_closed opened
        cases gate with
        | contains needle =>
          rw [Precondition.holds_contains_iff.mpr (admitted standing needle here)] at fails
          simp at fails
        | lacks needle =>
          refine .inl (.guarded needle here ?_)
          simpa [Precondition.holds, Text.contains_iff_infix] using fails
      | true =>
        by_cases missing : (rule.matcher.cut text).hits = []
        · exact .inr ⟨opened, missing, standing.1, standing.2⟩
        · exact .inl (.taken opened missing)

end Rule

namespace RuleSet

variable {set : RuleSet} {text : Text}

/-- Each required rule has what it is there for, or its replacement, in the text that it comes to. -/
def IsSettled (set : RuleSet) (text : Text) : Prop :=
  ∀ before rule after, set.rules = before ++ rule :: after → rule.required = true →
    rule.IsServed (applyAll before text).1 ∨ rule.ReplacementIn (applyAll before text).1

/-- No `when` gate keeps a required rule from a text that its replacement is in. -/
def Admits (set : RuleSet) (text : Text) : Prop :=
  ∀ before rule after, set.rules = before ++ rule :: after → rule.required = true →
    rule.ReplacementIn (applyAll before text).1 →
      ∀ needle, rule.precondition = some (.contains needle) → needle <:+: (applyAll before text).1

-- A run that changes nothing and violates nothing passes by what its rules find.
theorem passes_iff (same : (set.run text).1 = text) (clean : (set.run text).2.violations = [])
    (admits : set.Admits text) :
    (set.run text).2.isSuccess = true ∨ (set.run text).2.alreadyMigrated = true ↔ set.IsSettled text := by
  have hints : (∀ result ∈ (set.run text).2.results,
      result.isRequiredMiss = true → result.alreadyApplied = true) ↔ set.IsSettled text := by
    rw [run_results, forall_results_iff]
    refine forall_congr' fun before => forall_congr' fun rule => forall_congr' fun after => ?_
    refine imp_congr_right fun split => ?_
    rw [Rule.isRequiredMiss_apply_iff, Rule.alreadyApplied_apply_iff, and_imp]
    refine imp_congr_right fun required => ?_
    rw [← or_iff_not_imp_left, Rule.served_or_work_iff (admits before rule after split required)]
  rw [Report.isSuccess_iff, Report.alreadyMigrated_iff, ← hints]
  constructor
  · rintro (⟨_, hits⟩ | ⟨_, _, found⟩)
    · intro result member miss
      rw [hits result member] at miss
      simp at miss
    · exact found
  · intro found
    exact Or.inr ⟨run_unchanged same, clean, found⟩

end RuleSet

namespace CommandLine

theorem check_code {disk : Disk} {target : Path} {argument document : Text} {set : RuleSet} {origin : Origin}
    (resolved : RuleFile.resolve disk argument (searched disk (some target)) = .ok (set, origin))
    (loaded : disk.load target = .ok document) (colors asJson : Bool) :
    (carryOut colors disk (.check target argument asJson)).code = 0 ↔
      (set.run document).2.isSuccess = true ∨ (set.run document).2.alreadyMigrated = true := by
  have patched : set.patch .never disk target =
      (disk, .ok ⟨document, (set.run document).1, (set.run document).2, false⟩) := by
    simp [RuleSet.patch, Store.load, loaded, WriteMode.writes]
  rw [← Bool.or_eq_true]
  simp only [carryOut, withOutcome, resolved, patched]
  split
  · next fine => simp [fine]
  · next failed => simp [failed]

end CommandLine

namespace RuleSet

/-- After a run that succeeded, and whose output the next run leaves as it is without a `when` gate in the way, that
next run counts as a success or as done before exactly when each required rule finds what it is there for or its own
replacement; and that is when the check of the migrated document ends well. -/
theorem recheck_passes_iff (set : RuleSet) (document : Text)
    (success : (set.run document).2.isSuccess = true)
    (same : (set.run (set.run document).1).1 = (set.run document).1)
    (admits : set.Admits (set.run document).1) :
    let output := (set.run document).1
    let again := (set.run output).2
    (again.isSuccess = true ∨ again.alreadyMigrated = true ↔ set.IsSettled output) ∧
      ∀ (colors asJson : Bool) (disk : Disk) (target : Path) (argument : Text) (origin : Origin),
        RuleFile.resolve disk argument (CommandLine.searched disk (some target)) = .ok (set, origin) →
        disk.load target = .ok output →
        ((CommandLine.carryOut colors disk (.check target argument asJson)).code = 0 ↔
          set.IsSettled output) := by
  intro output again
  -- The second run leaves the text that the first one was verified on.
  have clean : again.violations = [] := by
    rw [run_violations, same, ← (Report.isSuccess_iff.mp success).1]
    rfl
  have passes := passes_iff same clean admits
  refine ⟨passes, ?_⟩
  intro colors asJson disk target argument origin resolved loaded
  rw [CommandLine.check_code resolved loaded, passes]

def gated : RuleSet :=
  ⟨['m'], none, [⟨['a'], .exact ['a'], .text ['x'], .all, .replace, some (.contains ['c']), true⟩], []⟩

-- The rule file of `gated`, and a document that it has migrated.
def gatedDisk : Disk :=
  let file := "rules=[\x7bid='a',match=\x7btype='exact',text='a'\x7d,replace=\x7btext='x'\x7d,when='c'\x7d]"
  ⟨[([['m', '.', 't', 'o', 'm', 'l']], .file (Text.encode file.toList)),
    ([['p']], .file (Text.encode ['x', 'c']))], []⟩

-- On the second run the rule finds its replacement, and nothing else.
theorem recheck_passes_gated :
    let output := (gated.run ['a', 'c']).1
    build gated.name gated.rules gated.expectations = .ok gated ∧ output = ['x', 'c'] ∧
      (gated.run ['a', 'c']).2.isSuccess = true ∧ (gated.run output).1 = output ∧ gated.Admits output ∧
      gated.IsSettled output ∧
      (CommandLine.carryOut false gatedDisk (.check ⟨['p']⟩ "m.toml".toList false)).code = 0 := by
  intro output
  have migrated : output = ['x', 'c'] := by decide
  have success : (gated.run ['a', 'c']).2.isSuccess = true := by decide
  have same : (gated.run output).1 = output := by decide
  have admits : gated.Admits output := by
    intro before rule after split _ _ needle gate
    cases before with
    | nil =>
      obtain ⟨rfl, _⟩ := List.cons.inj split
      obtain rfl : ['c'] = needle := by simpa using gate
      exact ⟨['x'], [], rfl⟩
    | cons first before => simp [gated] at split
  obtain ⟨passes, code⟩ := recheck_passes_iff gated ['a', 'c'] success same admits
  have settled : gated.IsSettled output := passes.mp (Or.inr (by decide +kernel))
  have found : (RuleFile.resolve gatedDisk "m.toml".toList
      (CommandLine.searched gatedDisk (some ⟨['p']⟩))).toOption = some (gated, .file ⟨"m.toml".toList⟩) := by
    decide +kernel
  have loaded : (gatedDisk.load ⟨['p']⟩).toOption = some output := by decide +kernel
  refine ⟨rfl, migrated, success, same, admits, settled, ?_⟩
  exact (code false false gatedDisk ⟨['p']⟩ "m.toml".toList _ (ok_of_toOption found)
    (ok_of_toOption loaded)).mpr settled

def chained : RuleSet :=
  ⟨['g'], none, [⟨['a'], .exact ['a'], .text ['b'], .all, .replace, none, true⟩,
      ⟨['b'], .exact ['b'], .text ['c'], .all, .replace, none, true⟩], []⟩

/-- A migrated document can fail its check: what the first rule put is no longer there. -/
theorem recheck_chained_fails :
    ¬ ∀ (set : RuleSet) (document : Text), build set.name set.rules set.expectations = .ok set →
      (set.run document).2.isSuccess = true →
      (set.run (set.run document).1).1 = (set.run document).1 →
      (set.run (set.run document).1).2.isSuccess = true ∨
        (set.run (set.run document).1).2.alreadyMigrated = true := by
  intro passes
  rcases passes chained ['a'] rfl (by decide) (by decide) with success | migrated
  · revert success
    decide
  · revert migrated
    decide +kernel

end RuleSet

end TextMigration
