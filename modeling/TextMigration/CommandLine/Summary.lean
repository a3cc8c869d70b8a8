import TextMigration.CommandLine.Output
import TextMigration.Report

/-!
A report as the command shows it: a line or more for each rule in order, the violations, and how many of
each there were. Failures go to the error channel.
-/

namespace TextMigration.CommandLine

structure Tally where
  applied : Nat := 0
  noMatch : Nat := 0
  skipped : Nat := 0
  failed : Nat := 0
deriving DecidableEq, Repr

/-- A share in hundredths, to the nearest, a tie to the even one; none where it is negative. -/
def percent (share : SignedBinary64) : Nat :=
  if share.negative then 0 else (share.magnitude.times 100).round

namespace Summary

def nearMiss (colors : Bool) (channel : Channel) (near : Option NearMiss) : Output :=
  match near with
  | none => []
  | some near =>
    let text := s!"  Closest line {near.line} ({percent near.similarity}% similar): {near.text.str}"
    Output.line channel (Style.dimmed.paint colors text.toList)

def signed (colors : Bool) (channel : Channel) (style : Style) (sign text : String) : Output :=
  Output.line channel (style.paint colors sign.toList ++ ' ' :: text.toList)

def result (colors isDry : Bool) (result : Application) : Output :=
  let id := result.ruleId.str
  match result.status with
  | .applied =>
    let verb := if isDry then "Would replace" else "Replaced"
    let of := if result.occurrences < result.found then s!" (first of {result.found})" else ""
    signed colors .out .green "✓" s!"{id}: {verb} {result.occurrences} occurrence(s){of}"
  | .skipped reason _ =>
    if result.isRequiredMiss then
      signed colors .err .red "✗" s!"{id}: Required rule skipped ({reason.str})"
    else signed colors .out .cyan "⊘" s!"{id}: Skipped ({reason.str})"
  | .noMatch =>
    if result.required then
      signed colors .err .red "✗" s!"{id}: Required rule matched 0 occurrences" ++
        (if result.alreadyApplied then
          Output.line .err (' ' :: ' ' :: Style.dimmed.paint colors "Replacement text is already present".toList)
        else []) ++
        nearMiss colors .err result.nearMiss
    else
      let note := if result.alreadyApplied then "already applied" else "optional"
      signed colors .out .yellow "⊙" s!"{id}: No match ({note})" ++
        nearMiss colors .out result.nearMiss

def count (tally : Tally) (result : Application) : Tally :=
  match result.status with
  | .applied => { tally with applied := tally.applied + 1 }
  | .skipped _ _ =>
    if result.isRequiredMiss then { tally with failed := tally.failed + 1 }
    else { tally with skipped := tally.skipped + 1 }
  | .noMatch =>
    if result.required then { tally with failed := tally.failed + 1 }
    else { tally with noMatch := tally.noMatch + 1 }

def violations (colors : Bool) (found : List Violation) : Output :=
  if found.isEmpty then []
  else
    let heading := Style.boldRed.paint colors "VERIFICATION FAILED".toList
    Output.line .err [] ++ signed colors .err .red "✗" s!"{heading.str} ({found.length})" ++
      found.flatMap fun violation => Output.line .err ("  - ".toList ++ violation.display)

def report (colors isDry : Bool) (report : Report) : Output :=
  report.results.flatMap (result colors isDry) ++ violations colors report.violations

def tally (report : Report) : Tally :=
  let counted := report.results.foldl count {}
  { counted with failed := counted.failed + report.violations.length }

def counted (colors : Bool) (style : Style) (count : Nat) (name : String) : Output :=
  Output.line .out (' ' :: ' ' :: style.paint colors (Nat.toDigits 10 count) ++ ' ' :: name.toList)

def totals (colors : Bool) (tally : Tally) : Output :=
  Output.line .out [] ++ Output.line .out (Style.bold.paint colors "Summary:".toList) ++
    counted colors .green tally.applied "applied" ++
    counted colors .yellow tally.noMatch "no match" ++
    counted colors .cyan tally.skipped "skipped" ++
    counted colors .red tally.failed "failed"

end Summary

end TextMigration.CommandLine
