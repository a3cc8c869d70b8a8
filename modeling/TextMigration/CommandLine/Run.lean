import TextMigration.CommandLine.Arguments
import TextMigration.CommandLine.DiffView
import TextMigration.CommandLine.Summary
import TextMigration.Json
import TextMigration.RuleFile.Find
import TextMigration.Store.Disk

/-!
The command: it applies a rule set to a document, checks whether a document still needs it, or lists the
rule sets there are. It is a function from arguments and a disk to what is written, the exit code and
the disk afterwards.
-/

namespace TextMigration.CommandLine

structure Ending where
  output : Output
  code : Nat
  disk : Disk

def versionText : Text := "textpatch 0.1.0".toList

def usage : List String := [
  "Usage: textpatch [-v] apply TARGET -r RULESET [-n] [--strict] [-d] [--json]",
  "       textpatch [-v] check TARGET -r RULESET [--json]",
  "       textpatch [-v] list"]

abbrev Causes := List Text

def indented (first more : Text) (cause : Text) : Text :=
  first ++ cause.flatMap fun c => if c = '\n' then '\n' :: more else [c]

def numbered (number : Nat) (cause : Text) : Text :=
  let digits := Nat.toDigits 10 number
  let first := List.replicate (5 - digits.length) ' ' ++ digits ++ [':', ' ']
  indented first (List.replicate 7 ' ') cause

def fatal (context : Text) (causes : Causes) : Output :=
  let shown := match causes with
    | [cause] => [indented (List.replicate 4 ' ') (List.replicate 4 ' ') cause]
    | _ => causes.mapIdx numbered
  Output.line .err ("Error: ".toList ++ context ++
    if causes.isEmpty then []
    else "\n\nCaused by:\n".toList ++ List.intercalate ['\n'] shown)

def loadCauses (error : LoadError) : Causes := error.display :: error.cause?.toList

def storeCauses (error : StoreError) : Causes := error.display :: error.cause?.toList

/-- Where rule sets are looked for: beside the target, and in the current directory. -/
def searched (disk : Disk) (target : Option Path) : List Path :=
  let inside (directory : Path) := directory.join (Path.ofString "rulesets")
  let beside := match target.bind Path.parent? with
    | some parent => if parent.text.isEmpty then [] else [inside parent]
    | none => []
  let current := inside ⟨'/' :: List.intercalate ['/'] disk.current⟩
  if beside.any (Path.same current) then beside else beside ++ [current]

def originText : Origin → Text
  | .file path => path.text
  | .builtin _ => "built-in".toList

def outcomeJson (target : Path) (outcome : Outcome) : Output :=
  let report := outcome.report
  let tree : Json.Tree := .object [
    ("target", .text target.text), ("success", .truth report.isSuccess),
    ("changed", .truth report.changed), ("already_migrated", .truth report.alreadyMigrated),
    ("written", .truth outcome.written), ("report", report.json)]
  Output.line .out (tree.pretty 0)

def heading (target : Path) (set : RuleSet) (origin : Origin) : Output :=
  Output.line .out ("Target: ".toList ++ target.text) ++
    Output.line .out (s!"Rule set: {set.name.str} ({(originText origin).str})".toList)

def writtenNote (colors : Bool) (target : Path) (mode : WriteMode) (outcome : Outcome) : Output :=
  let name := target.text.str
  if outcome.written then Summary.signed colors .out .green "✓" s!"Wrote {name}"
  else if outcome.report.changed then
    if mode = .onSuccess then
      Summary.signed colors .err .cyan "⊘" s!"{name} left unchanged (--strict and the run failed)"
    else []
  else Summary.signed colors .out .yellow "⊙" "No changes"

def applied (colors : Bool) (target : Path) (mode : WriteMode) (showsDiff : Bool) (set : RuleSet)
    (origin : Origin) (outcome : Outcome) : Output :=
  let report := outcome.report
  let isDry := mode = .never
  heading target set origin ++
    (if isDry then
      Output.line .out (Style.cyan.paint colors "[DRY RUN - nothing will be written]".toList)
    else []) ++
    Output.line .out [] ++ Summary.report colors isDry report ++
    (if showsDiff && report.changed then
      DiffView.changes colors target outcome.before outcome.after
    else []) ++
    Output.line .out [] ++ writtenNote colors target mode outcome ++
    Summary.totals colors (Summary.tally report)

def checked (colors : Bool) (target : Path) (set : RuleSet) (origin : Origin) (report : Report) :
    Output :=
  Output.line .out (Style.bold.paint colors "Migration Status Report".toList) ++
    heading target set origin ++ Output.line .out [] ++
    if report.alreadyMigrated then
      Summary.signed colors .out .green "✓"
        (Style.boldGreen.paint colors "ALREADY MIGRATED".toList).str
    else
      Summary.report colors true report ++ Output.line .out [] ++
        (if report.isSuccess then
          let heading := Style.boldYellow.paint colors "WOULD CHANGE".toList
          Summary.signed colors .out .yellow "⊙"
            s!"{heading.str} ({report.totalOccurrences} occurrence(s))"
        else []) ++
        Summary.totals colors (Summary.tally report)

def withOutcome (disk : Disk) (target : Path) (ruleSet : Text) (mode : WriteMode) (task : String)
    (finish : RuleSet → Origin → Outcome → Output × Bool) : Ending :=
  match RuleFile.resolve disk ruleSet (searched disk (some target)) with
  | .error error =>
    ⟨fatal s!"failed to load rule set '{ruleSet.str}'".toList (loadCauses error), 1, disk⟩
  | .ok (set, origin) =>
    match set.patch mode disk target with
    | (disk, .error error) =>
      ⟨fatal s!"failed to {task} {target.text.str}".toList (storeCauses error), 1, disk⟩
    | (disk, .ok outcome) =>
      let (output, isFine) := finish set origin outcome
      ⟨output, if isFine then 0 else 1, disk⟩

def listed (colors : Bool) (label : Text) (set : RuleSet) : Output :=
  let description := Style.dimmed.paint colors (set.description.getD [])
  let required := (set.rules.filter Rule.required).length
  let counts := s!"{set.rules.length} rules, {required} required, {set.expectations.length} expectations"
  Output.line .out (' ' :: ' ' :: Style.green.paint colors label ++ ' ' :: description ++
    s!" ({counts})".toList)

def listedOr (colors : Bool) (label : Text) (set : Except LoadError RuleSet) : Output :=
  match set with
  | .ok set => listed colors label set
  | .error error =>
    Output.line .err (' ' :: ' ' :: Style.red.paint colors ['✗'] ++ ' ' :: label ++ [':', ' '] ++
      error.display)

def list (colors : Bool) (disk : Disk) : Output :=
  let files := RuleFile.discover disk (searched disk none)
  Output.line .out (Style.bold.paint colors "Built-in rule sets:".toList) ++
    Builtin.all.flatMap (fun builtin => listedOr colors builtin.name builtin.load) ++
    if files.isEmpty then []
    else
      Output.line .out [] ++ Output.line .out (Style.bold.paint colors "Discovered rule sets:".toList) ++
        files.flatMap fun file => listedOr colors file.text (RuleFile.loadFile disk file)

def carryOut (colors : Bool) (disk : Disk) : Command → Ending
  | .apply target ruleSet mode showsDiff asJson =>
    withOutcome disk target ruleSet mode "patch" fun set origin outcome =>
      (if asJson then outcomeJson target outcome
        else applied colors target mode showsDiff set origin outcome,
        outcome.report.isSuccess)
  | .check target ruleSet asJson =>
    withOutcome disk target ruleSet .never "check" fun set origin outcome =>
      (if asJson then outcomeJson target outcome
        else checked colors target set origin outcome.report,
        outcome.report.isSuccess || outcome.report.alreadyMigrated)
  | .list => ⟨list colors disk, 0, disk⟩

def run (colors : Bool) (disk : Disk) (arguments : List Text) : Ending :=
  let help (channel : Channel) := usage.flatMap fun line => Output.line channel line.toList
  match Arguments.read arguments {} with
  | .ok command => carryOut colors disk command
  | .error .version => ⟨Output.line .out versionText, 0, disk⟩
  | .error .help => ⟨help .out, 0, disk⟩
  | .error .misuse => ⟨help .err, 2, disk⟩

end TextMigration.CommandLine
