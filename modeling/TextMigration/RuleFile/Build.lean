import TextMigration.RuleFile.Definition
import TextMigration.RuleSet

/-!
From what a rule file says to a rule set: patterns are compiled and fragments looked up. Everything that
is wrong is reported at once, first what keeps a rule from being made, then what is wrong with the rules
that could be made.
-/

namespace TextMigration.RuleFile

namespace Definition

def matcher (definition : Definition) : Except Issue Matcher :=
  match definition.target with
  | .exact text => .ok (.exact text)
  | .delimited start stop => .ok (.delimited start stop)
  | .pattern regex =>
    match Pattern.compile regex with
    | .ok pattern => .ok (.pattern pattern)
    | .error refusal => .error (.invalidPattern definition.id (refusal.message regex))

def replacement (fragments : List (Text × Text)) (definition : Definition) :
    Except Issue Replacement :=
  match definition.source with
  | .text text => .ok (.text text)
  | .fragment name =>
    match fragments.lookup name with
    | some body => .ok (.fragment ⟨name, body⟩)
    | none => .error (.unknownFragment definition.id name)

def gate (definition : Definition) : Except Issue (Option Precondition) :=
  match definition.whenText, definition.unlessText with
  | some _, some _ => .error (.bothGates definition.id)
  | some text, none => .ok (some (.contains text))
  | none, some text => .ok (some (.lacks text))
  | none, none => .ok none

def issue {α : Type} : Except Issue α → List Issue
  | .ok _ => []
  | .error issue => [issue]

def issues (fragments : List (Text × Text)) (definition : Definition) : List Issue :=
  issue definition.matcher ++ issue (definition.replacement fragments) ++ issue definition.gate

def rule? (fragments : List (Text × Text)) (definition : Definition) : Option Rule :=
  match definition.matcher, definition.replacement fragments, definition.gate with
  | .ok matcher, .ok replacement, .ok gate => some {
      id := definition.id, matcher, replacement, scope := definition.scope
      placement := definition.placement, precondition := gate, required := definition.required }
  | _, _, _ => none

end Definition

def definitionIssues (file : RuleFile) : List Issue :=
  file.definitions.flatMap fun definition => definition.issues file.fragments

def rules (file : RuleFile) : List Rule :=
  file.definitions.filterMap fun definition => definition.rule? file.fragments

def nameOr (file : RuleFile) (default : Text) : Text :=
  if file.name.trim.isEmpty then default else file.name.trim

/-- An issue worth telling: that there are no rules is not, when they could not be made. -/
def isTold (file : RuleFile) (issue : Issue) : Bool :=
  file.definitions.isEmpty || issue != .emptyRuleList

def build (file : RuleFile) (default : Text) : Except (List Issue) RuleSet :=
  match RuleSet.build (file.nameOr default) file.rules file.expectations with
  | .ok set =>
    if file.definitionIssues.isEmpty then .ok { set with description := file.description }
    else .error file.definitionIssues
  | .error issues => .error (file.definitionIssues ++ issues.filter file.isTold)

end TextMigration.RuleFile
