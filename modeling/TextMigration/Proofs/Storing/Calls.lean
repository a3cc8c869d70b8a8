import TextMigration.Proofs.Storing.Memory

/-!
Any sequence of calls on a store in memory: loading, saving, and patching with whatever rule set and mode.
`Step` says what one call may answer and what it leaves; a sequence goes from step to step. Over the whole of
it the count grows with what was saved or written, and every path holds the text that came last
(`run_calls`).
-/

namespace TextMigration.MemoryStore

inductive Call where
  | load (path : Path)
  | save (path : Path) (text : Text)
  | patch (set : RuleSet) (mode : WriteMode) (path : Path)

inductive Answer where
  | loaded (result : Except StoreError Text)
  | saved (failure : Option StoreError)
  | patched (result : Except StoreError Outcome)

def answer (store : MemoryStore) : Call → MemoryStore × Answer
  | .load path => (store, .loaded (Store.load store path))
  | .save path text =>
    let (after, failure) := Store.save store path text
    (after, .saved failure)
  | .patch set mode path =>
    let (after, result) := set.patch mode store path
    (after, .patched result)

def answerAll : List Call → MemoryStore → MemoryStore × List Answer
  | [], store => (store, [])
  | call :: calls, store =>
    let (next, first) := store.answer call
    let (last, others) := answerAll calls next
    (last, first :: others)

inductive Step (before : MemoryStore) : Call → Answer → MemoryStore → Prop where
  | loaded {path : Path} {text : Text} (here : before.get? path = some text) :
    Step before (.load path) (.loaded (.ok text)) before
  | absent {path : Path} (none : before.get? path = none) :
    Step before (.load path) (.loaded (.error (.notFound path))) before
  | saved {path : Path} {text : Text} {after : MemoryStore} (saved : Saved before path text after) :
    Step before (.save path text) (.saved none) after
  | refused {set : RuleSet} {mode : WriteMode} {path : Path} (none : before.get? path = none) :
    Step before (.patch set mode path) (.patched (.error (.notFound path))) before
  | kept {set : RuleSet} {mode : WriteMode} {path : Path} {document : Text}
    (here : before.get? path = some document)
    (idle : ¬ ((set.run document).2.changed = true ∧
      (mode = .always ∨ mode = .onSuccess ∧ (set.run document).2.isSuccess = true))) :
    Step before (.patch set mode path)
      (.patched (.ok ⟨document, (set.run document).1, (set.run document).2, false⟩)) before
  | written {set : RuleSet} {mode : WriteMode} {path : Path} {document : Text} {after : MemoryStore}
    (here : before.get? path = some document)
    (changed : (set.run document).2.changed = true)
    (asked : mode = .always ∨ mode = .onSuccess ∧ (set.run document).2.isSuccess = true)
    (saved : Saved before path (set.run document).1 after) :
    Step before (.patch set mode path)
      (.patched (.ok ⟨document, (set.run document).1, (set.run document).2, true⟩)) after

/-- Each call is answered on the store that the calls before it have left. -/
inductive Steps : MemoryStore → List Call → List Answer → MemoryStore → Prop where
  | done {store : MemoryStore} : Steps store [] [] store
  | next {before middle after : MemoryStore} {call : Call} {calls : List Call} {first : Answer}
    {others : List Answer} (step : Step before call first middle)
    (later : Steps middle calls others after) :
    Steps before (call :: calls) (first :: others) after

def Call.isSave : Call → Bool
  | save _ _ => true
  | _ => false

def Answer.isWritten : Answer → Bool
  | patched (.ok outcome) => outcome.written
  | _ => false

def stored? : Call → Answer → Option (Path × Text)
  | .save path text, _ => some (path, text)
  | .patch _ _ path, .patched (.ok outcome) => if outcome.written then some (path, outcome.after) else none
  | _, _ => none

def entries (calls : List Call) (answers : List Answer) : List (Path × Text) :=
  (calls.zip answers).filterMap fun (call, answer) => stored? call answer

def latest? (path : Path) (entries : List (Path × Text)) : Option Text :=
  (entries.reverse.find? fun entry => path.same entry.1).map Prod.snd

variable {before after : MemoryStore} {call : Call} {calls : List Call} {first : Answer} {answers : List Answer}

theorem answer_step (store : MemoryStore) (call : Call) :
    Step store call (store.answer call).2 (store.answer call).1 := by
  cases call with
  | load path =>
    have result : store.answer (.load path) = (store, .loaded (store.load path)) := rfl
    rw [result, load]
    cases here : store.get? path with
    | none => exact .absent here
    | some text => exact .loaded here
  | save path text => exact .saved (save_saved store path text)
  | patch set mode path =>
    rw [answer]
    cases here : store.get? path with
    | none =>
      rw [RuleSet.patch_of_absent set mode here]
      exact .refused here
    | some document =>
      rw [RuleSet.patch_of_found set mode here]
      by_cases writes : mode.writes (set.run document).2 = true
      · obtain ⟨changed, asked⟩ := WriteMode.writes_iff.mp writes
        simp only [writes, if_true]
        exact .written here changed asked (save_saved store path _)
      · simp only [writes]
        exact .kept here (mt WriteMode.writes_iff.mpr writes)

theorem answerAll_steps (calls : List Call) (store : MemoryStore) :
    Steps store calls (answerAll calls store).2 (answerAll calls store).1 := by
  induction calls generalizing store with
  | nil => exact .done
  | cons call calls ih => exact .next (answer_step store call) (ih (store.answer call).1)

@[simp] theorem entries_cons (call : Call) (calls : List Call) (first : Answer) (others : List Answer) :
    entries (call :: calls) (first :: others) = (stored? call first).toList ++ entries calls others := by
  cases entry : stored? call first <;> simp [entries, entry]

theorem latest?_append (path : Path) (early late : List (Path × Text)) :
    latest? path (early ++ late) = (latest? path late).or (latest? path early) := by
  rw [latest?, List.reverse_append, List.find?_append, Option.map_or]
  rfl

namespace Step

theorem saves (step : Step before call first after) :
    after.saves = before.saves + (if call.isSave then 1 else 0) + (if first.isWritten then 1 else 0) := by
  cases step with
  | saved saved => exact saved.counted
  | written _ _ _ saved => exact saved.counted
  | _ => rfl

theorem get? (step : Step before call first after) (path : Path) :
    after.get? path = (latest? path (stored? call first).toList).or (before.get? path) := by
  have put {place : Path} {text : Text} (saved : Saved before place text after) :
      after.get? path = (latest? path [(place, text)]).or (before.get? path) := by
    cases same : path.same place with
    | true => simp [latest?, same, saved.here path same]
    | false => simp [latest?, same, saved.elsewhere path same]
  cases step with
  | saved saved => exact put saved
  | written _ _ _ saved => exact put saved
  | _ => rfl

end Step

namespace Steps

theorem saves (steps : Steps before calls answers after) :
    after.saves = before.saves + calls.countP Call.isSave + answers.countP Answer.isWritten := by
  induction steps with
  | done => rfl
  | next step _ ih =>
    rw [ih, step.saves, List.countP_cons, List.countP_cons]
    omega

theorem get? (steps : Steps before calls answers after) (path : Path) :
    after.get? path = (latest? path (entries calls answers)).or (before.get? path) := by
  induction steps with
  | done => rfl
  | next step _ ih => rw [ih, step.get? path, entries_cons, latest?_append, Option.or_assoc]

end Steps

/-- Whatever is called on a store: each call does what it may, the saves are those that were asked for and
those of the patches that say so, and a path holds what was put there last, or what was there at first. -/
theorem run_calls (store : MemoryStore) (calls : List Call) :
    let (after, answers) := answerAll calls store
    Steps store calls answers after ∧
      after.saves = store.saves + calls.countP Call.isSave + answers.countP Answer.isWritten ∧
      ∀ path : Path, after.get? path = (latest? path (entries calls answers)).or (store.get? path) := by
  have steps := answerAll_steps calls store
  exact ⟨steps, steps.saves, steps.get?⟩

end TextMigration.MemoryStore
