import TextMigration.Matcher
import TextMigration.NearMiss

/-!
Rules: what to look for, what to put there, when, and how often. Applying a rule never fails. It gives the
next text and a result that says what happened; a rule that finds nothing leaves the text alone.
-/

namespace TextMigration

inductive Scope where
  | all
  | first
deriving DecidableEq, Repr

inductive Placement where
  | replace
  | before
  | after
deriving DecidableEq, Repr

structure Fragment where
  name : Text
  body : Text
deriving DecidableEq, Repr

/-- What a span gives way to. A text may refer to the groups of a pattern; a fragment is verbatim. -/
inductive Replacement where
  | text (text : Text)
  | fragment (fragment : Fragment)
deriving DecidableEq, Repr

def Replacement.body : Replacement → Text
  | .text written => written
  | .fragment block => block.body

inductive Precondition where
  | contains (text : Text)
  | lacks (text : Text)
deriving DecidableEq, Repr

namespace Precondition

def holds : Precondition → Text → Bool
  | contains needle, text => text.contains needle
  | lacks needle, text => !text.contains needle

/-- The gate guards against doing the work twice, so that a closed gate means it is done. -/
def isGuard : Precondition → Bool
  | contains _ => false
  | lacks _ => true

def display : Precondition → Text
  | contains needle => "buffer lacks ".toList ++ needle.preview.quoted
  | lacks needle => "buffer already contains ".toList ++ needle.preview.quoted

end Precondition

structure Rule where
  id : Text
  matcher : Matcher
  replacement : Replacement
  scope : Scope
  placement : Placement
  precondition : Option Precondition
  /-- Finding nothing is then a failure. -/
  required : Bool
deriving DecidableEq, Repr

inductive Status where
  | applied
  | noMatch
  /-- The gate was closed. `satisfied` tells that the work is already there. -/
  | skipped (reason : Text) (satisfied : Bool)
deriving DecidableEq, Repr

structure Application where
  ruleId : Text
  required : Bool
  status : Status
  matched : Bool
  /-- Spans that were taken. -/
  occurrences : Nat
  /-- Spans that were there to take. -/
  found : Nat
  alreadyApplied : Bool
  nearMiss : Option NearMiss
deriving DecidableEq, Repr

/-- A required rule that found nothing, or whose gate says that the text is not the expected one. -/
def Application.isRequiredMiss (result : Application) : Bool :=
  result.required &&
    match result.status with
    | .applied => false
    | .noMatch => true
    | .skipped _ satisfied => !satisfied

namespace Rule

/-- What the rule puts at a hit. Only a text in the place of a pattern is a template. -/
def insertion (rule : Rule) (hit : Hit) : Text :=
  match rule.matcher, rule.replacement, hit.found with
  | .pattern p, .text template, some found => Pattern.Template.expand (found.fill p.names) template
  | _, replacement, _ => replacement.body

def edited (rule : Rule) (hit : Hit) : Text :=
  match rule.placement with
  | .replace => rule.insertion hit
  | .before => rule.insertion hit ++ hit.span
  | .after => hit.span ++ rule.insertion hit

def take (rule : Rule) (found : Nat) : Nat :=
  match rule.scope with
  | .all => found
  | .first => min 1 found

def splice (rule : Rule) (count : Nat) (cuts : Cuts) : Text :=
  (cuts.hits.take count).flatMap (fun hit => hit.gap ++ rule.edited hit) ++
    Cuts.join ⟨cuts.hits.drop count, cuts.tail⟩

def blankResult (rule : Rule) : Application :=
  ⟨rule.id, rule.required, .noMatch, false, 0, 0, false, none⟩

def closedGate? (rule : Rule) (text : Text) : Option Precondition :=
  rule.precondition.filter fun gate => !gate.holds text

def replacementPresent (rule : Rule) (text : Text) : Bool :=
  !rule.replacement.body.isEmpty && text.contains rule.replacement.body

def apply (rule : Rule) (text : Text) : Text × Application :=
  match rule.closedGate? text with
  | some gate => (text, { rule.blankResult with status := .skipped gate.display gate.isGuard })
  | none =>
    let cuts := rule.matcher.cut text
    let found := cuts.hits.length
    if found = 0 then
      (text, { rule.blankResult with
        alreadyApplied := rule.replacementPresent text
        nearMiss := rule.matcher.literalTarget?.bind (NearMiss.nearest text) })
    else
      let count := rule.take found
      (rule.splice count cuts, { rule.blankResult with
        status := .applied, matched := true, occurrences := count, found := found })

/-- The rule might take what it put there itself when it runs again. Where the text that will be there
is not known before a match, and where a block could begin again, it counts as if it would. A guard
rules it out. -/
def rematchesOwnOutput (rule : Rule) : Bool :=
  if rule.precondition.any Precondition.isGuard then false
  else if rule.placement ≠ .replace then true
  else
    match rule.matcher, rule.replacement with
    | .delimited start _, replacement => replacement.body.contains start
    | .pattern p, .text template =>
      Pattern.Template.refersToGroups template || (Matcher.pattern p).isMatch template
    | matcher, replacement => matcher.isMatch replacement.body

end Rule

end TextMigration
