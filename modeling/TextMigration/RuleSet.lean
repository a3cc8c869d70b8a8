import TextMigration.Rule
import TextMigration.Expectation

/-!
Rule sets and what makes one acceptable: there are rules, every rule can be told from the others and has
something to look for, none takes its own output again, and every expectation names something. A rule set
that is not acceptable is refused with all its issues at once, rules first and in order.
-/

namespace TextMigration

inductive Field where
  | id
  | matcher
deriving DecidableEq, Repr

inductive Issue where
  | emptyRuleList
  | missingField (ruleId : Option Text) (field : Field)
  | duplicateId (ruleId : Text)
  | invalidPattern (ruleId message : Text)
  | unknownFragment (ruleId fragment : Text)
  | bothGates (ruleId : Text)
  | selfMatching (ruleId : Text)
  | emptyExpectation
deriving DecidableEq, Repr

def Field.label : Field → String
  | id => "id"
  | matcher => "match"

namespace Issue

def bothGatesMessage : String := "`when` and `unless` cannot both be set"

def display : Issue → Text
  | emptyRuleList => "rule set contains no rules".toList
  | missingField none field => s!"rule missing required field '{field.label}'".toList
  | missingField (some id) field => s!"rule '{id.str}' missing required field '{field.label}'".toList
  | duplicateId id => s!"duplicate rule id '{id.str}'".toList
  | invalidPattern id message => s!"rule '{id.str}' has an invalid pattern: {message.str}".toList
  | unknownFragment id name => s!"rule '{id.str}' references unknown fragment '{name.str}'".toList
  | bothGates id => s!"rule '{id.str}' has invalid configuration: {bothGatesMessage}".toList
  | selfMatching id =>
    s!"rule '{id.str}' matches its own output; guard it with `unless` or narrow the match".toList
  | emptyExpectation => "expectation with empty needle".toList

def displayAll (issues : List Issue) : Text := List.intercalate ['\n'] (issues.map display)

end Issue

structure RuleSet where
  name : Text
  description : Option Text
  rules : List Rule
  expectations : List Expectation
deriving DecidableEq, Repr

namespace RuleSet

def idIssues (seen : List Text) (rule : Rule) : List Issue :=
  if rule.id.trim.isEmpty then [.missingField none .id]
  else if seen.contains rule.id then [.duplicateId rule.id]
  else []

def matcherIssues (rule : Rule) : List Issue :=
  if rule.matcher.isBlank then [.missingField (some rule.id) .matcher]
  else if rule.rematchesOwnOutput then [.selfMatching rule.id]
  else []

def ruleIssues : List Text → List Rule → List Issue
  | _, [] => []
  | seen, rule :: rest =>
    idIssues seen rule ++ matcherIssues rule ++ ruleIssues (rule.id :: seen) rest

def expectationIssues (expectations : List Expectation) : List Issue :=
  (expectations.filter fun expectation => expectation.needle.isEmpty).map fun _ => .emptyExpectation

def issues (rules : List Rule) (expectations : List Expectation) : List Issue :=
  (if rules.isEmpty then [.emptyRuleList] else []) ++ ruleIssues [] rules ++
    expectationIssues expectations

def build (name : Text) (rules : List Rule) (expectations : List Expectation) :
    Except (List Issue) RuleSet :=
  match issues rules expectations with
  | [] => .ok ⟨name, none, rules, expectations⟩
  | found => .error found

end RuleSet

end TextMigration
