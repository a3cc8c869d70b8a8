import TextMigration.Patch

/-!
What the arguments of the command ask for. A flag is given at most once, an option takes the next
argument as its value unless one is attached, and after two dashes nothing is an option any more. Asking
for help or for the version ends the reading at once.
-/

namespace TextMigration.CommandLine

inductive Task where
  | none
  | apply
  | check
  | list
deriving DecidableEq, Repr

inductive Flag where
  | verbose
  | dryRun
  | strict
  | diff
  | json
deriving DecidableEq, Repr

inductive Asked where
  | flag (flag : Flag)
  | ruleSet
  | help
  | version
deriving DecidableEq, Repr

inductive Stop where
  | help
  | version
  | misuse
deriving DecidableEq, Repr

inductive Command where
  | apply (target : Path) (ruleSet : Text) (mode : WriteMode) (showsDiff asJson : Bool)
  | check (target : Path) (ruleSet : Text) (asJson : Bool)
  | list
deriving DecidableEq, Repr

namespace Arguments

def options : Task → List (String × Option Char × Asked)
  | .none => [("verbose", some 'v', .flag .verbose), ("help", some 'h', .help),
      ("version", some 'V', .version)]
  | .apply => [("verbose", some 'v', .flag .verbose), ("help", some 'h', .help),
      ("ruleset", some 'r', .ruleSet), ("dry-run", some 'n', .flag .dryRun),
      ("strict", none, .flag .strict), ("diff", some 'd', .flag .diff), ("json", none, .flag .json)]
  | .check => [("verbose", some 'v', .flag .verbose), ("help", some 'h', .help),
      ("ruleset", some 'r', .ruleSet), ("json", none, .flag .json)]
  | .list => [("verbose", some 'v', .flag .verbose), ("help", some 'h', .help)]

def ofLong? (task : Task) (name : Text) : Option Asked :=
  ((options task).find? fun known => known.1.toList = name).map fun known => known.2.2

def ofShort? (task : Task) (letter : Char) : Option Asked :=
  ((options task).find? fun known => known.2.1 = some letter).map fun known => known.2.2

def taskNames : List (String × Task) := [("apply", .apply), ("check", .check), ("list", .list)]

def ofName? (name : Text) : Option Task :=
  (taskNames.find? fun known => known.1.toList = name).map Prod.snd

structure Given where
  target : Option Text := none
  ruleSet : Option Text := none
  flags : List Flag := []
deriving DecidableEq, Repr

def Given.withFlag (given : Given) (flag : Flag) : Except Stop Given :=
  if flag ∈ given.flags then .error .misuse else .ok { given with flags := flag :: given.flags }

def Given.withRuleSet (given : Given) (value : Text) : Except Stop Given :=
  if given.ruleSet.isSome then .error .misuse else .ok { given with ruleSet := some value }

def Given.withPlain (task : Task) (given : Given) (value : Text) : Except Stop Given :=
  if task ∈ [.apply, .check] ∧ given.target.isNone ∧ ¬value.isEmpty then
    .ok { given with target := some value }
  else .error .misuse

/-- The argument is read as options. A dash alone is not. -/
def isOption : Text → Bool
  | '-' :: _ :: _ => true
  | _ => false

def attached (value : Text) : Text :=
  match value with
  | '=' :: rest => rest
  | _ => value

abbrev Read := Given × Bool

def readShort (task : Task) : Text → Given → Except Stop Read
  | [], given => .ok (given, false)
  | letter :: rest, given =>
    match ofShort? task letter with
    | none => .error .misuse
    | some .help => .error .help
    | some .version => .error .version
    | some .ruleSet =>
      if rest.isEmpty then .ok (given, true)
      else (given.withRuleSet (attached rest)).map fun given => (given, false)
    | some (.flag flag) => do readShort task rest (← given.withFlag flag)

def readLong (task : Task) (text : Text) (given : Given) : Except Stop Read :=
  let name := text.takeWhile (· != '=')
  let value := text.dropWhile (· != '=')
  match ofLong? task name with
  | none => .error .misuse
  | some .ruleSet =>
    if value.isEmpty then .ok (given, true)
    else (given.withRuleSet (attached value)).map fun given => (given, false)
  | some option =>
    if !value.isEmpty then .error .misuse
    else
      match option with
      | .help => .error .help
      | .version => .error .version
      | .flag flag => (given.withFlag flag).map fun given => (given, false)
      | .ruleSet => .error .misuse

def readOption (task : Task) (argument : Text) (given : Given) : Except Stop Read :=
  match argument with
  | '-' :: '-' :: text => readLong task text given
  | _ :: text => readShort task text given
  | [] => .error .misuse

/-- The arguments of a task; after two dashes all of them are plain. -/
def readTask (task : Task) : Bool → List Text → Given → Except Stop Given
  | _, [], given => .ok given
  | true, argument :: rest, given => do readTask task true rest (← given.withPlain task argument)
  | false, argument :: rest, given =>
    if argument = ['-', '-'] then readTask task true rest given
    else if isOption argument then
      match readOption task argument given with
      | .error stop => .error stop
      | .ok (given, false) => readTask task false rest given
      | .ok (given, true) =>
        match rest with
        | [] => .error .misuse
        | value :: rest =>
          if isOption value then .error .misuse
          else do readTask task false rest (← given.withRuleSet value)
    else do readTask task false rest (← given.withPlain task argument)

def command (task : Task) (given : Given) : Except Stop Command :=
  match task, given.target, given.ruleSet with
  | .apply, some target, some ruleSet =>
    let mode : WriteMode :=
      if .dryRun ∈ given.flags then .never
      else if .strict ∈ given.flags then .onSuccess
      else .always
    .ok (.apply ⟨target⟩ ruleSet mode (.diff ∈ given.flags) (.json ∈ given.flags))
  | .check, some target, some ruleSet => .ok (.check ⟨target⟩ ruleSet (.json ∈ given.flags))
  | .list, _, _ => .ok .list
  | _, _, _ => .error .misuse

def readHelp : List Text → Stop
  | [] => .help
  | [name] => if (ofName? name).isSome ∨ name = "help".toList then .help else .misuse
  | _ => .misuse

def read : List Text → Given → Except Stop Command
  | [], _ => .error .misuse
  | argument :: rest, given =>
    if argument = ['-', '-'] then .error .misuse
    else if isOption argument then
      match readOption .none argument given with
      | .error stop => .error stop
      | .ok (given, _) => read rest given
    else if argument = "help".toList then .error (readHelp rest)
    else
      match ofName? argument with
      | none => .error .misuse
      | some task => do command task (← readTask task false rest {})

end Arguments

end TextMigration.CommandLine
