import TextMigration.RuleSet
import TextMigration.Text.Digest

/-!
What a run of a rule set tells: a result for every rule in order, the violations, and the digests of the
text before and after. Failures are read off it; none of them stops a run.
-/

namespace TextMigration

structure Report where
  ruleSet : Text
  results : List Application
  violations : List Violation
  inputDigest : UInt64
  outputDigest : UInt64
deriving DecidableEq, Repr

inductive Failure where
  | requiredRuleMissed (ruleId : Text)
  | violated (violation : Violation)
deriving DecidableEq, Repr

def Failure.display : Failure → Text
  | requiredRuleMissed id => s!"required rule '{id.str}' matched 0 occurrences".toList
  | violated violation => "verification failed: ".toList ++ violation.display

namespace Report

def failures (report : Report) : List Failure :=
  (report.results.filter Application.isRequiredMiss).map (fun result => .requiredRuleMissed result.ruleId) ++
    report.violations.map .violated

def isSuccess (report : Report) : Bool :=
  report.violations.isEmpty && !report.results.any Application.isRequiredMiss

/-- The text is not the same afterwards, as far as the digests tell. -/
def changed (report : Report) : Bool := report.inputDigest != report.outputDigest

/-- Nothing changed, every expectation holds, and every required rule that missed finds its replacement
in the text: the work was done before. -/
def alreadyMigrated (report : Report) : Bool :=
  !report.changed && report.violations.isEmpty &&
    (report.results.filter Application.isRequiredMiss).all Application.alreadyApplied

def result? (report : Report) (id : Text) : Option Application :=
  report.results.find? fun result => result.ruleId == id

/-- All occurrences together, counted in a word of 64 bits. -/
def totalOccurrences (report : Report) : Nat :=
  report.results.foldr (fun result total => result.occurrences + total) 0 % UInt64.size

end Report

end TextMigration
