import TextMigration.Report

/-!
Running a rule set: every rule in order, each on what the one before it left, and then the expectations
on what the last one left. Along with the report a run gives the events that it is worth telling about.
-/

namespace TextMigration

inductive Level where
  | debug
  | info
  | warn
deriving DecidableEq, Repr

inductive Event where
  | loaded (path : Text) (bytes : Nat)
  | ruleEvaluated (matcher : Text) (result : Application)
  | requiredMiss (result : Application)
  | violated (violation : Violation)
  | ruleSetApplied (report : Report)
  | saved (path : Text) (bytes : Nat)
deriving DecidableEq, Repr

namespace Event

def level : Event → Level
  | loaded _ _ => .debug
  | ruleEvaluated _ _ => .debug
  | requiredMiss _ => .warn
  | violated _ => .warn
  | ruleSetApplied _ => .info
  | saved _ _ => .info

def message : Event → String
  | loaded _ _ => "document loaded"
  | ruleEvaluated _ _ => "rule evaluated"
  | requiredMiss _ => "required rule matched nothing"
  | violated _ => "post-condition failed"
  | ruleSetApplied _ => "rule set applied"
  | saved _ _ => "document saved"

inductive Value where
  | text (text : Text)
  | number (number : Nat)
  | truth (truth : Bool)
deriving DecidableEq, Repr

def statusText : Status → Text
  | .applied => "Applied".toList
  | .noMatch => "NoMatch".toList
  | .skipped reason satisfied =>
    "Skipped \x7b reason: ".toList ++ reason.quoted ++ s!", satisfied: {satisfied} \x7d".toList

def lineText : Option Nat → Text
  | none => "None".toList
  | some line => s!"Some({line})".toList

def fields : Event → List (String × Value)
  | loaded path bytes => [("path", .text path), ("bytes", .number bytes)]
  | ruleEvaluated matcher result => [
      ("rule", .text result.ruleId),
      ("matcher", .text matcher),
      ("status", .text (statusText result.status)),
      ("occurrences", .number result.occurrences),
      ("found", .number result.found)]
  | requiredMiss result => [
      ("rule", .text result.ruleId),
      ("already_applied", .truth result.alreadyApplied),
      ("near_line", .text (lineText (result.nearMiss.map NearMiss.line)))]
  | violated violation => [("violation", .text violation.display)]
  | ruleSetApplied report => [
      ("ruleset", .text report.ruleSet),
      ("rules", .number report.results.length),
      ("occurrences", .number report.totalOccurrences),
      ("changed", .truth report.changed),
      ("success", .truth report.isSuccess)]
  | saved path bytes => [("path", .text path), ("bytes", .number bytes)]

end Event

namespace RuleSet

def applyAll : List Rule → Text → Text × List Application
  | [], text => (text, [])
  | rule :: rest, text =>
    let (next, result) := rule.apply text
    let (last, results) := applyAll rest next
    (last, result :: results)

def run (set : RuleSet) (text : Text) : Text × Report :=
  let (output, results) := applyAll set.rules text
  (output, ⟨set.name, results, Expectation.check output set.expectations, text.digest, output.digest⟩)

def ruleEvents (rule : Rule) (result : Application) : List Event :=
  .ruleEvaluated rule.matcher.display result ::
    if result.isRequiredMiss then [.requiredMiss result] else []

def events (set : RuleSet) (text : Text) : List Event :=
  let report := (set.run text).2
  (set.rules.zip report.results).flatMap (fun (rule, result) => ruleEvents rule result) ++
    report.violations.map .violated ++ [.ruleSetApplied report]

end RuleSet

end TextMigration
