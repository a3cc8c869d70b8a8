import TextMigration.Proofs.Search.Places

/-!
One thread on its way through a program: what it comes to on a text (`outcome`), instruction by instruction.
A class takes a character or ends the thread, a branch gives way to its targets in their order, and code that
spells a word takes just that word (`outcome_word`).
-/

namespace TextMigration.Pattern

open Unicode (Ranges)
open Thread (settled)

variable {program : Array Instr} {index : Nat} {before : Option Char} {text : Text} {thread : Thread}

def outcome (program : Array Instr) (index : Nat) (before : Option Char) (text : Text) (thread : Thread) :
    Option Outcome :=
  (settled program ⟨before, text.head?, index⟩ [thread]).findSome? fun next =>
    follow program false index [next] none text

theorem matchAt_eq_outcome (program : Array Instr) (index : Nat) (before : Option Char) (text : Text) :
    matchAt program index before text = outcome program index before text (.starting index) :=
  (follow_eq_findSome? text index).1 _

theorem Visited.has_none (number : Nat) : Visited.has .none number = false := by
  cases number <;> rfl

namespace Thread

variable {place : Place}

theorem moves_settled (stays : thread.isSettled program = true) : thread.moves program place = [] := by
  unfold isSettled at stays
  unfold moves
  split at stays
  · next here => rw [here]
  · next here => rw [here]
  · simp at stays

theorem settled_self (stays : thread.isSettled program = true) :
    settled program place [thread] = [thread] := by
  rw [settled_eq, settleAll_fresh _ _ _ (Visited.has_none _), if_pos stays, moves_settled stays,
    List.append_nil, settleAll_nil]
  rfl

-- A branch is no instruction to stay at, so none of its settled targets has been reached before.
theorem settled_branch {first second : Nat} (here : program[thread.next]? = some (.branch first second))
    (one : isSettled program { thread with next := first } = true)
    (other : isSettled program { thread with next := second } = true) (apart : first ≠ second) :
    settled program place [thread] = [{ thread with next := first }, { thread with next := second }] := by
  have leaves : thread.isSettled program = false := by simp [isSettled, here]
  have away (target : Nat) (stays : isSettled program { thread with next := target } = true) :
      target ≠ thread.next := by
    rintro rfl
    rw [leaves] at stays
    simp at stays
  have targets : thread.moves program place =
      [{ thread with next := first }, { thread with next := second }] := by
    simp [moves, here]
  rw [settled_eq, settleAll_fresh _ _ _ (Visited.has_none _), leaves, targets]
  have fresh : (Visited.none.add thread.next).has first = false := by
    simp [Visited.has_add, Visited.has_none, away first one]
  have unseen : ((Visited.none.add thread.next).add first).has second = false := by
    simp [Visited.has_add, Visited.has_none, away second other, Ne.symm apart]
  simp only [List.append_nil, Bool.false_eq_true, if_false, List.nil_append]
  rw [settleAll_fresh _ _ _ fresh, if_pos one, moves_settled one, List.nil_append,
    settleAll_fresh _ _ _ unseen, if_pos other, moves_settled other, List.append_nil, settleAll_nil]
  rfl

end Thread

theorem outcome_settled (stays : thread.isSettled program = true) :
    outcome program index before text thread = follow program false index [thread] none text := by
  rw [outcome, Thread.settled_self stays]
  simp

theorem outcome_done (here : program[thread.next]? = some .done) :
    outcome program index before text thread = some (arrived index thread) := by
  have stays : thread.isSettled program = true := by simp [Thread.isSettled, here]
  have ends : thread.isDone program = true := by simp [Thread.isDone, here]
  rw [outcome_settled stays]
  cases text with
  | nil => rw [follow_nil, List.find?_singleton, ends]; rfl
  | cons c rest =>
    rw [follow_single index thread c rest fun threads => goOn_eq_findSome? index c rest threads, if_pos ends]

section Chars

variable {set : Ranges} (here : program[thread.next]? = some (.chars set))
include here

theorem outcome_chars_nil : outcome program index before [] thread = none := by
  have stays : thread.isSettled program = true := by simp [Thread.isSettled, here]
  have goes : thread.isDone program = false := by simp [Thread.isDone, here]
  rw [outcome_settled stays, follow_nil, List.find?_singleton, goes]
  rfl

theorem outcome_chars (c : Char) (rest : Text) :
    outcome program index before (c :: rest) thread =
      if set.has c.toNat then
        outcome program (index + 1) (some c) rest { thread with next := thread.next + 1 }
      else none := by
  have stays : thread.isSettled program = true := by simp [Thread.isSettled, here]
  have goes : thread.isDone program = false := by simp [Thread.isDone, here]
  rw [outcome_settled stays,
    follow_single index thread c rest fun threads => goOn_eq_findSome? index c rest threads, goes]
  simp only [Bool.false_eq_true, if_false, Thread.take?, here]
  split
  · rfl
  · rfl

end Chars

theorem outcome_branch {first second : Nat} (here : program[thread.next]? = some (.branch first second))
    (one : Thread.isSettled program { thread with next := first } = true)
    (other : Thread.isSettled program { thread with next := second } = true) (apart : first ≠ second) :
    outcome program index before text thread =
      (outcome program index before text { thread with next := first }).or
        (outcome program index before text { thread with next := second }) := by
  rw [outcome_settled one, outcome_settled other, outcome, Thread.settled_branch here one other apart]
  simp only [List.findSome?_cons, List.findSome?_nil]
  cases follow program false index [{ thread with next := first }] none text with
  | none => cases follow program false index [{ thread with next := second }] none text <;> rfl
  | some found => rfl

/-- From this instruction on, the code takes the characters of a word one after another. -/
def SpellsAt (program : Array Instr) : Nat → Text → Prop
  | _, [] => True
  | number, c :: word =>
    program[number]? = some (.chars [(c.toNat, c.toNat)]) ∧ SpellsAt program (number + 1) word

instance SpellsAt.decidable (program : Array Instr) : ∀ number word, Decidable (SpellsAt program number word)
  | _, [] => inferInstanceAs (Decidable True)
  | number, _ :: word =>
    have := decidable program (number + 1) word
    inferInstanceAs (Decidable (_ ∧ _))

theorem has_single (c d : Char) : Ranges.has d.toNat [(c.toNat, c.toNat)] = true ↔ c = d := by
  simp only [Ranges.has]
  rw [← Char.toNat_inj]
  split
  · simp; omega
  · split
    · simp; omega
    · simp; omega

theorem outcome_word {word : Text} (spells : SpellsAt program thread.next word) :
    outcome program index before text thread =
      (Text.after? word text).bind fun rest =>
        outcome program (index + word.length) (word.getLast?.or before) rest
          { thread with next := thread.next + word.length } := by
  induction word generalizing index before text thread with
  | nil => simp [Text.after?]
  | cons c word ih =>
    obtain ⟨here, others⟩ := spells
    cases text with
    | nil => rw [outcome_chars_nil here]; rfl
    | cons d rest =>
      rw [outcome_chars here, Text.after?]
      by_cases same : c = d
      · rw [if_pos ((has_single c d).mpr same), if_pos same, ih others]
        subst same
        congr 1
        funext behind
        have length : index + 1 + word.length = index + (c :: word).length := by
          rw [List.length_cons]
          omega
        have next : thread.next + 1 + word.length = thread.next + (c :: word).length := by
          rw [List.length_cons]
          omega
        have last : word.getLast?.or (some c) = (c :: word).getLast?.or before := by
          rw [List.getLast?_cons]
          cases word.getLast? <;> rfl
        rw [length, last]
        simp only [next]
      · rw [if_neg (fun has => same ((has_single c d).mp has)), if_neg same]
        rfl

end TextMigration.Pattern
