import TextMigration.Matcher

/-!
Post-conditions: texts that must, or must not, be in a document once all rules have run.
-/

namespace TextMigration

inductive Expectation where
  | present (needle : Text)
  | absent (needle : Text)
deriving DecidableEq, Repr

structure Violation where
  expectation : Expectation
  occurrences : Nat
deriving DecidableEq, Repr

namespace Expectation

def needle : Expectation → Text
  | present needle => needle
  | absent needle => needle

def kind : Expectation → String
  | present _ => "present"
  | absent _ => "absent"

def fails : Expectation → Nat → Bool
  | present _, occurrences => occurrences == 0
  | absent _, occurrences => occurrences != 0

def display (expectation : Expectation) : Text :=
  expectation.kind.toList ++ [' '] ++ expectation.needle.quoted

def violation? (text : Text) (expectation : Expectation) : Option Violation :=
  let occurrences := text.count expectation.needle
  if expectation.fails occurrences then some ⟨expectation, occurrences⟩ else none

def check (text : Text) (expectations : List Expectation) : List Violation :=
  expectations.filterMap (violation? text)

end Expectation

def Violation.display (violation : Violation) : Text :=
  match violation.expectation with
  | .present needle => "expected ".toList ++ needle.quoted ++ " to be present, found none".toList
  | .absent needle =>
    "expected ".toList ++ needle.quoted ++
      s!" to be absent, found {violation.occurrences} occurrence(s)".toList

end TextMigration
