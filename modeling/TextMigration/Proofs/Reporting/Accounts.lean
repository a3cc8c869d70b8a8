import TextMigration.Proofs.Running.Recheck

/-!
The places that tell of failures: the list of a report, the tally under a shown report, the warnings of a run
and the exit code. Each sorts results by itself. `accounts_agree` says that they tell of the same failures:
the required rules that missed, and then the violations.
-/

namespace TextMigration

namespace Application

variable {result : Application}

/-- The rule was needed, was not applied, and its `unless` text was not there either. -/
def Misses (result : Application) : Prop :=
  result.required = true ∧ result.status ≠ .applied ∧ ∀ reason, result.status ≠ .skipped reason true

theorem isRequiredMiss_iff : result.isRequiredMiss = true ↔ result.Misses := by
  rw [isRequiredMiss, Misses]
  cases result.status with
  | applied => simp
  | noMatch => simp
  | skipped reason satisfied => cases satisfied <;> simp

instance (result : Application) : Decidable result.Misses := decidable_of_iff _ isRequiredMiss_iff

theorem decide_misses (result : Application) : decide result.Misses = result.isRequiredMiss := by
  rw [Bool.eq_iff_iff, decide_eq_true_iff, isRequiredMiss_iff]

end Application

namespace Report

variable {report : Report}

theorem failures_eq (report : Report) : report.failures =
    (report.results.filter fun result => result.Misses).map (fun result => .requiredRuleMissed result.ruleId) ++
      report.violations.map .violated := by
  simp only [failures, Application.decide_misses]

theorem failures_eq_nil_iff : report.failures = [] ↔ report.isSuccess = true := by
  rw [isSuccess_iff, failures, List.append_eq_nil_iff, List.map_eq_nil_iff, List.map_eq_nil_iff,
    List.filter_eq_nil_iff, and_comm]
  simp only [Bool.not_eq_true]

theorem length_failures (report : Report) : report.failures.length =
    report.results.countP Application.isRequiredMiss + report.violations.length := by
  rw [failures, List.length_append, List.length_map, List.length_map, List.countP_eq_length_filter]

end Report

namespace CommandLine

def Tally.total (tally : Tally) : Nat := tally.applied + tally.noMatch + tally.skipped + tally.failed

namespace Summary

-- Each result is counted once, and as failed exactly when it is a miss.
theorem count_step (tally : Tally) (result : Application) :
    (count tally result).total = tally.total + 1 ∧
      (count tally result).failed = tally.failed + if result.isRequiredMiss then 1 else 0 := by
  rw [count, Application.isRequiredMiss]
  cases result.status with
  | applied =>
    simp only [Tally.total, Bool.and_false, Bool.false_eq_true, if_false]
    omega
  | noMatch =>
    cases result.required with
    | true =>
      simp only [Tally.total, Bool.and_self, if_true, and_true]
      omega
    | false =>
      simp only [Tally.total, Bool.and_true, Bool.false_eq_true, if_false]
      omega
  | skipped reason satisfied =>
    cases result.required && !satisfied with
    | true =>
      simp only [Tally.total, if_true, and_true]
      omega
    | false =>
      simp only [Tally.total, Bool.false_eq_true, if_false]
      omega

theorem foldl_count (results : List Application) (start : Tally) :
    (results.foldl count start).total = start.total + results.length ∧
      (results.foldl count start).failed = start.failed + results.countP Application.isRequiredMiss := by
  induction results generalizing start with
  | nil => simp
  | cons result results ih =>
    obtain ⟨total, failed⟩ := count_step start result
    obtain ⟨totals, fails⟩ := ih (count start result)
    rw [List.foldl_cons, totals, fails, total, failed, List.length_cons, List.countP_cons]
    omega

theorem failed_tally (report : Report) : (tally report).failed = report.failures.length := by
  have fails := (foldl_count report.results {}).2
  rw [Report.length_failures, tally]
  simp only [fails]
  omega

theorem total_tally (report : Report) :
    (tally report).total = report.results.length + report.violations.length := by
  have totals := (foldl_count report.results {}).1
  simp only [Tally.total] at totals
  simp only [Tally.total, tally]
  omega

end Summary

end CommandLine

namespace Event

def failure? : Event → Option Failure
  | requiredMiss result => some (.requiredRuleMissed result.ruleId)
  | violated violation => some (.violated violation)
  | _ => none

def evaluation? : Event → Option Application
  | ruleEvaluated _ result => some result
  | _ => none

end Event

namespace RuleSet

-- One rule: its result, and a warning if it is a miss.
theorem warnings_ruleEvents (rule : Rule) (result : Application) :
    (ruleEvents rule result).filter (fun event => event.level = .warn) =
      if result.isRequiredMiss then [.requiredMiss result] else [] := by
  rw [ruleEvents]
  by_cases missed : result.isRequiredMiss = true
  · simp [missed, Event.level]
  · simp [missed, Event.level]

theorem details_ruleEvents (rule : Rule) (result : Application) :
    (ruleEvents rule result).filter (fun event => event.level = .debug) =
      [.ruleEvaluated rule.matcher.display result] := by
  rw [ruleEvents]
  by_cases missed : result.isRequiredMiss = true
  · simp [missed, Event.level]
  · simp [missed, Event.level]

def told : List Rule → Text → List Event
  | [], _ => []
  | rule :: rest, text => ruleEvents rule (rule.apply text).2 ++ told rest (rule.apply text).1

theorem told_eq_zip (rules : List Rule) (text : Text) :
    told rules text = (rules.zip (applyAll rules text).2).flatMap fun (rule, result) => ruleEvents rule result := by
  induction rules generalizing text with
  | nil => rfl
  | cons rule rules ih => rw [told, ih, applyAll_cons, List.zip_cons_cons, List.flatMap_cons]

theorem warnings_told (rules : List Rule) (text : Text) :
    (told rules text).filter (fun event => event.level = .warn) =
      ((applyAll rules text).2.filter Application.isRequiredMiss).map .requiredMiss := by
  induction rules generalizing text with
  | nil => rfl
  | cons rule rules ih =>
    rw [told, List.filter_append, warnings_ruleEvents, ih, applyAll_cons, List.filter_cons]
    by_cases missed : (rule.apply text).2.isRequiredMiss = true
    · simp [missed]
    · simp [missed]

theorem details_told (rules : List Rule) (text : Text) :
    ((told rules text).filter fun event => event.level = .debug).map Event.evaluation? =
      (applyAll rules text).2.map some := by
  induction rules generalizing text with
  | nil => rfl
  | cons rule rules ih =>
    rw [told, List.filter_append, details_ruleEvents, List.map_append, ih, applyAll_cons, List.map_cons]
    rfl

theorem events_eq (set : RuleSet) (text : Text) :
    set.events text = told set.rules text ++ (set.run text).2.violations.map .violated ++
      [.ruleSetApplied (set.run text).2] := by
  rw [told_eq_zip]
  rfl

theorem warnings_events (set : RuleSet) (text : Text) :
    ((set.events text).filter fun event => event.level = .warn).map Event.failure? =
      (set.run text).2.failures.map some := by
  rw [events_eq, List.filter_append, List.filter_append, warnings_told, Report.failures, run_results]
  simp [List.filter_map, Function.comp_def, Event.level, Event.failure?]

theorem details_events (set : RuleSet) (text : Text) :
    ((set.events text).filter fun event => event.level = .debug).map Event.evaluation? =
      (set.run text).2.results.map some := by
  rw [events_eq, List.filter_append, List.filter_append, List.map_append, List.map_append, details_told,
    run_results]
  simp [List.filter_map, Function.comp_def, Event.level]

end RuleSet

namespace CommandLine

variable {disk later : Disk} {target : Path} {argument : Text} {set : RuleSet} {origin : Origin}
  {mode : WriteMode} {outcome : Outcome}

theorem apply_ending (resolved : RuleFile.resolve disk argument (searched disk (some target)) = .ok (set, origin))
    (patched : set.patch mode disk target = (later, .ok outcome)) (colors showsDiff asJson : Bool) :
    carryOut colors disk (.apply target argument mode showsDiff asJson) =
      ⟨if asJson then outcomeJson target outcome else applied colors target mode showsDiff set origin outcome,
        if outcome.report.isSuccess then 0 else 1, later⟩ := by
  simp only [carryOut, withOutcome, resolved, patched]

-- A shown report ends with how many things failed.
theorem failed_shown (colors showsDiff : Bool) (target : Path) (mode : WriteMode) (set : RuleSet)
    (origin : Origin) (outcome : Outcome) :
    Summary.counted colors .red (Summary.tally outcome.report).failed "failed" <:+
      applied colors target mode showsDiff set origin outcome := by
  rw [applied, Summary.totals]
  simp only [← List.append_assoc]
  exact List.suffix_append _ _

/-- A report succeeds exactly when it lists no failures, and it lists each required rule that missed and then
each violation, in order. As many are shown as failed, and every result and violation is counted once. A run
warns of the same failures in the same order, and tells of each result. Applying a rule set from the command
line, where it comes to a report, ends with 1 when the count that it shows as failed is positive and with 0
when it is not. -/
theorem accounts_agree :
    (∀ report : Report,
      (report.isSuccess = true ↔ report.failures = []) ∧
      report.failures =
        (report.results.filter fun result => result.Misses).map (fun result => .requiredRuleMissed result.ruleId) ++
          report.violations.map .violated ∧
      let tally := Summary.tally report
      tally.failed = report.failures.length ∧
      tally.applied + tally.noMatch + tally.skipped + tally.failed =
        report.results.length + report.violations.length) ∧
    (∀ (set : RuleSet) (document : Text),
      let events := set.events document
      let report := (set.run document).2
      (events.filter fun event => event.level = .warn).map Event.failure? = report.failures.map some ∧
      (events.filter fun event => event.level = .debug).map Event.evaluation? = report.results.map some) ∧
    ∀ (colors showsDiff asJson : Bool) (disk later : Disk) (target : Path) (argument : Text) (mode : WriteMode)
      (set : RuleSet) (origin : Origin) (outcome : Outcome),
      RuleFile.resolve disk argument (searched disk (some target)) = .ok (set, origin) →
      set.patch mode disk target = (later, .ok outcome) →
      let ending := carryOut colors disk (.apply target argument mode showsDiff asJson)
      let failed := (Summary.tally outcome.report).failed
      (ending.code = 1 ↔ 0 < failed) ∧ (ending.code = 0 ↔ failed = 0) ∧
        (asJson = false → Summary.counted colors .red failed "failed" <:+ ending.output) := by
  refine ⟨?_, ?_, ?_⟩
  · intro report
    exact ⟨Report.failures_eq_nil_iff.symm, report.failures_eq, Summary.failed_tally report,
      Summary.total_tally report⟩
  · intro set document
    exact ⟨RuleSet.warnings_events set document, RuleSet.details_events set document⟩
  · intro colors showsDiff asJson disk later target argument mode set origin outcome resolved patched ending failed
    have ends : ending = _ := apply_ending resolved patched colors showsDiff asJson
    have none : outcome.report.isSuccess = true ↔ failed = 0 := by
      rw [← Report.failures_eq_nil_iff, ← List.length_eq_zero_iff, ← Summary.failed_tally]
    have code : ending.code = if failed = 0 then 0 else 1 := by simp only [ends, none]
    refine ⟨?_, ?_, ?_⟩
    · rw [code]
      split <;> omega
    · rw [code]
      split <;> omega
    · intro shown
      simp only [ends, shown, Bool.false_eq_true, if_false]
      exact failed_shown colors showsDiff target mode set origin outcome

end CommandLine

namespace RuleSet

def relabel : RuleSet := ⟨['m'], none, [⟨['a'], .exact ['a'], .text ['x'], .all, .replace, none, true⟩], []⟩

-- The rule file of `relabel`, and a document that it has migrated.
def relabelDisk : Disk :=
  let file := "rules=[\x7bid='a',match=\x7btype='exact',text='a'\x7d,replace=\x7btext='x'\x7d\x7d]"
  ⟨[([['m', '.', 't', 'o', 'm', 'l']], .file (Text.encode file.toList)),
    ([['p']], .file (Text.encode ['x', 'c']))], []⟩

end RuleSet

namespace CommandLine

-- There is no `a` left in the document: the rule misses, which is the one failure.
theorem accounts_agree_missed :
    let report := (RuleSet.relabel.run ['x', 'c']).2
    report.isSuccess = false ∧ report.failures = [.requiredRuleMissed ['a']] ∧ (Summary.tally report).failed = 1 ∧
      (carryOut false RuleSet.relabelDisk (.apply ⟨['p']⟩ "m.toml".toList .never false false)).code = 1 := by
  intro report
  obtain ⟨reports, _, applies⟩ := accounts_agree
  obtain ⟨succeeds, lists, fails, _⟩ := reports report
  have missed : report.failures = [.requiredRuleMissed ['a']] := by
    rw [lists]
    decide +kernel
  have counted : (Summary.tally report).failed = 1 := by rw [fails, missed, List.length_singleton]
  have resolved : (RuleFile.resolve RuleSet.relabelDisk "m.toml".toList
      (searched RuleSet.relabelDisk (some ⟨['p']⟩))).toOption =
      some (RuleSet.relabel, .file ⟨"m.toml".toList⟩) := by
    decide +kernel
  have loaded : (RuleSet.relabelDisk.load ⟨['p']⟩).toOption = some ['x', 'c'] := by decide +kernel
  have patched : RuleSet.relabel.patch .never RuleSet.relabelDisk ⟨['p']⟩ =
      (RuleSet.relabelDisk, .ok ⟨['x', 'c'], (RuleSet.relabel.run ['x', 'c']).1, report, false⟩) := by
    simp [RuleSet.patch, Store.load, RuleSet.ok_of_toOption loaded, WriteMode.writes, report]
  obtain ⟨code, _⟩ := applies false false false RuleSet.relabelDisk _ ⟨['p']⟩ "m.toml".toList .never
    RuleSet.relabel _ _ (RuleSet.ok_of_toOption resolved) patched
  refine ⟨?_, missed, counted, code.mpr ?_⟩
  · rw [← Bool.not_eq_true, succeeds, missed]
    simp
  · rw [counted]
    exact Nat.one_pos

end CommandLine

end TextMigration
