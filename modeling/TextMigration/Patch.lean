import TextMigration.Run
import TextMigration.Store.Basic

/-!
One document from end to end: it is loaded once, the rule set runs on it, and it is saved at most once.
Failures of rules and expectations are in the report; only the store can stop the work.
-/

namespace TextMigration

inductive WriteMode where
  | always
  | onSuccess
  | never
deriving DecidableEq, Repr

structure Outcome where
  before : Text
  after : Text
  report : Report
  written : Bool
deriving DecidableEq, Repr

def WriteMode.writes (mode : WriteMode) (report : Report) : Bool :=
  report.changed &&
    match mode with
    | always => true
    | onSuccess => report.isSuccess
    | never => false

namespace RuleSet

def patch {σ : Type} [Store σ] (set : RuleSet) (mode : WriteMode) (store : σ) (path : Path) :
    σ × Except StoreError Outcome :=
  match Store.load store path with
  | .error failure => (store, .error failure)
  | .ok before =>
    let (after, report) := set.run before
    if mode.writes report then
      match Store.save store path after with
      | (store, some failure) => (store, .error failure)
      | (store, none) => (store, .ok ⟨before, after, report, true⟩)
    else (store, .ok ⟨before, after, report, false⟩)

def patchEvents (set : RuleSet) (path : Path) (outcome : Outcome) : List Event :=
  [.loaded path.text outcome.before.byteLength] ++ set.events outcome.before ++
    if outcome.written then [.saved path.text outcome.after.byteLength] else []

end RuleSet

end TextMigration
