import TextMigration.Pattern.Search

/-!
How threads settle. `Thread.settleAll` is `Thread.settle` with as much fuel as it needs. The threads of a
stack settle one after another, and what was reached before is left out: it goes on as it did then. So if
nothing that was reached comes to a match, leaving it out changes nothing (`findSome?_settleAll`), and a
stack comes to what the first of its threads comes to that comes to anything (`findSome?_settled`).
-/

namespace TextMigration.Pattern.Thread

variable {program : Array Instr} {place : Place}

def unseen (program : Array Instr) (seen : Visited) : Nat :=
  (List.range program.size).countP fun number => !seen.has number

def need (program : Array Instr) (seen : Visited) (stack : List Thread) : Nat :=
  stack.length + 2 * unseen program seen

def settleAll (program : Array Instr) (place : Place) (seen : Visited) (stack : List Thread) : List Thread :=
  settle program place (need program seen stack) seen stack

theorem countP_add (numbers : List Nat) (seen : Visited) (number : Nat) :
    (numbers.countP fun other => !(seen.add number).has other) ≤
      numbers.countP fun other => !seen.has other := by
  apply List.countP_mono_left
  intro other _ fresh
  rw [Visited.has_add] at fresh
  cases there : seen.has other <;> simp_all

theorem countP_add_lt (numbers : List Nat) (seen : Visited) (number : Nat) (within : number ∈ numbers)
    (fresh : seen.has number = false) :
    (numbers.countP fun other => !(seen.add number).has other) <
      numbers.countP fun other => !seen.has other := by
  induction numbers with
  | nil => simp at within
  | cons first rest ih =>
    have kept := countP_add rest seen number
    rw [List.countP_cons, List.countP_cons, Visited.has_add]
    by_cases same : first = number
    · subst same
      simp only [beq_self_eq_true, Bool.true_or, Bool.not_true, fresh, Bool.not_false]
      simp only [Bool.false_eq_true, if_false, if_true]
      omega
    · have inside : number ∈ rest := by
        rcases List.mem_cons.1 within with equal | inside
        · exact absurd equal.symm same
        · exact inside
      have less := ih inside
      have apart : (first == number) = false := by simp [same]
      rw [apart, Bool.false_or]
      split <;> omega

theorem length_moves (program : Array Instr) (place : Place) (thread : Thread) :
    (thread.moves program place).length ≤ 2 := by
  unfold moves
  split
  · exact Nat.le_succ 1
  · exact Nat.le_refl 2
  · exact Nat.le_succ 1
  · split
    · exact Nat.le_succ 1
    · exact Nat.zero_le 2
  · exact Nat.zero_le 2

theorem moves_outside (thread : Thread) (outside : program.size ≤ thread.next) :
    thread.moves program place = [] := by
  simp [moves, Array.getElem?_eq_none outside]

-- Going on from a thread that was not reached before needs less fuel.
theorem need_moves (program : Array Instr) (place : Place) (seen : Visited) (thread : Thread)
    (rest : List Thread)
    (fresh : seen.has thread.next = false) :
    need program (seen.add thread.next) (thread.moves program place ++ rest) <
      need program seen (thread :: rest) := by
  unfold need
  rw [List.length_append, List.length_cons]
  by_cases inside : thread.next < program.size
  · have few := length_moves program place thread
    have less := countP_add_lt (List.range program.size) seen thread.next (List.mem_range.2 inside) fresh
    unfold unseen
    omega
  · rw [moves_outside thread (Nat.le_of_not_lt inside), List.length_nil]
    have kept := countP_add (List.range program.size) seen thread.next
    unfold unseen
    omega

theorem need_skip (program : Array Instr) (seen : Visited) (thread : Thread) (rest : List Thread) :
    need program seen rest < need program seen (thread :: rest) := by
  unfold need
  rw [List.length_cons]
  omega

theorem settle_nil (fuel : Nat) (seen : Visited) : settle program place fuel seen [] = [] := by
  cases fuel <;> rfl

-- More fuel than needed makes no difference.
theorem settle_fuel (fuel other : Nat) (seen : Visited) (stack : List Thread)
    (enough : need program seen stack ≤ fuel) (too : need program seen stack ≤ other) :
    settle program place fuel seen stack = settle program place other seen stack := by
  induction fuel generalizing other seen stack with
  | zero =>
    cases stack with
    | nil => rw [settle_nil, settle_nil]
    | cons thread rest => unfold need at enough; rw [List.length_cons] at enough; omega
  | succ fuel ih =>
    cases stack with
    | nil => rw [settle_nil, settle_nil]
    | cons thread rest =>
      cases other with
      | zero => unfold need at too; rw [List.length_cons] at too; omega
      | succ other =>
        have skip := need_skip program seen thread rest
        rw [settle, settle, ih other seen rest (by omega) (by omega)]
        cases reached : seen.has thread.next with
        | true => rfl
        | false =>
          have less := need_moves program place seen thread rest reached
          rw [ih other _ _ (by omega) (by omega)]

theorem settle_eq_settleAll (fuel : Nat) (seen : Visited) (stack : List Thread)
    (enough : need program seen stack ≤ fuel) :
    settle program place fuel seen stack = settleAll program place seen stack :=
  settle_fuel _ _ _ _ enough (Nat.le_refl _)

theorem settleAll_nil (seen : Visited) : settleAll program place seen [] = [] := settle_nil _ _

-- A thread at an instruction that was reached before is dropped.
theorem settleAll_reached (seen : Visited) (thread : Thread) (rest : List Thread)
    (reached : seen.has thread.next = true) :
    settleAll program place seen (thread :: rest) = settleAll program place seen rest := by
  have skip := need_skip program seen thread rest
  rw [settleAll, settle_fuel _ (need program seen (thread :: rest) + 1) _ _ (Nat.le_refl _) (Nat.le_succ _),
    settle, if_pos reached, settleAll, settle_fuel _ _ _ _ (by omega) (Nat.le_refl _)]

theorem settle_fresh (fuel : Nat) (seen : Visited) (thread : Thread) (rest : List Thread)
    (fresh : seen.has thread.next = false) :
    settle program place (fuel + 1) seen (thread :: rest) =
      (if thread.isSettled program then [thread] else []) ++
        settle program place fuel (seen.add thread.next) (thread.moves program place ++ rest) := by
  rw [settle, fresh]
  cases thread.isSettled program <;> rfl

-- A thread at a new instruction is kept if it is settled, and what it turns into comes next.
theorem settleAll_fresh (seen : Visited) (thread : Thread) (rest : List Thread)
    (fresh : seen.has thread.next = false) :
    settleAll program place seen (thread :: rest) =
      (if thread.isSettled program then [thread] else []) ++
        settleAll program place (seen.add thread.next) (thread.moves program place ++ rest) := by
  have less := need_moves program place seen thread rest fresh
  rw [settleAll, settle_fuel _ (need program seen (thread :: rest) + 1) _ _ (Nat.le_refl _) (Nat.le_succ _),
    settle_fresh _ _ _ _ fresh, settleAll,
    settle_fuel (need program seen (thread :: rest)) _ _ _ (by omega) (Nat.le_refl _)]

-- What a thread turns into depends on its instruction alone, but for what it carries.
theorem moves_next {thread other : Thread} (same : thread.next = other.next) :
    (thread.moves program place).map next = (other.moves program place).map next := by
  unfold moves
  rw [same]
  split <;> try rfl
  split <;> rfl

theorem isSettled_next {thread other : Thread} (same : thread.next = other.next) :
    thread.isSettled program = other.isSettled program := by
  unfold isSettled
  rw [same]

/-- Settling ends, so what holds of the smaller stacks it comes to may be used for a stack. -/
theorem settling (program : Array Instr) (place : Place) {motive : Visited → List Thread → Prop}
    (nil : ∀ seen, motive seen [])
    (reached : ∀ seen thread rest, seen.has thread.next = true → motive seen rest →
      motive seen (thread :: rest))
    (fresh : ∀ seen thread rest, seen.has thread.next = false →
      motive (seen.add thread.next) (thread.moves program place ++ rest) → motive seen (thread :: rest))
    (seen : Visited) (stack : List Thread) : motive seen stack := by
  induction size : need program seen stack using Nat.strongRecOn generalizing seen stack with
  | _ size ih =>
    subst size
    cases stack with
    | nil => exact nil seen
    | cons thread rest =>
      cases there : seen.has thread.next with
      | true => exact reached seen thread rest there (ih _ (need_skip program seen thread rest) _ _ rfl)
      | false => exact fresh seen thread rest there (ih _ (need_moves program place seen thread rest there) _ _ rfl)

/-- What has been reached once the first threads of a stack have settled: they have been, and so has all
that what is new there turns into. What is new and settled is among the threads. -/
theorem settleAll_append (program : Array Instr) (place : Place) (seen : Visited)
    (first second : List Thread) :
    ∃ after : Visited,
      settleAll program place seen (first ++ second) =
        settleAll program place seen first ++ settleAll program place after second ∧
      (∀ number, seen.has number = true → after.has number = true) ∧
      (∀ thread ∈ first, after.has thread.next = true) ∧
      (∀ thread : Thread, after.has thread.next = true → seen.has thread.next = false →
        (∀ next ∈ thread.moves program place, after.has next.next = true) ∧
        (thread.isSettled program = true →
          ∃ kept ∈ settleAll program place seen first, kept.next = thread.next)) := by
  induction seen, first using settling program place with
  | nil seen =>
    refine ⟨seen, by rw [settleAll_nil]; rfl, fun _ there => there, by simp, fun thread there fresh => ?_⟩
    rw [there] at fresh
    exact absurd fresh (by simp)
  | reached seen thread rest there ih =>
    obtain ⟨after, split, grows, covered, closed⟩ := ih
    refine ⟨after, ?_, grows, ?_, ?_⟩
    · rw [List.cons_append, settleAll_reached _ _ _ there, split, settleAll_reached _ _ _ there]
    · intro other inside
      rcases List.mem_cons.1 inside with rfl | inside
      · exact grows _ there
      · exact covered other inside
    · rw [settleAll_reached _ _ _ there]
      exact closed
  | fresh seen thread rest fresh ih =>
    obtain ⟨after, split, grows, covered, closed⟩ := ih
    have here : after.has thread.next = true := grows _ (by rw [Visited.has_add]; simp)
    refine ⟨after, ?_, ?_, ?_, ?_⟩
    · rw [List.cons_append, settleAll_fresh _ _ _ fresh, settleAll_fresh _ _ _ fresh, ← List.append_assoc,
        split, List.append_assoc]
    · intro number there
      exact grows number (by rw [Visited.has_add, there, Bool.or_true])
    · intro other inside
      rcases List.mem_cons.1 inside with rfl | inside
      · exact here
      · exact covered other (List.mem_append_right _ inside)
    · intro other there unseen
      rw [settleAll_fresh _ _ _ fresh]
      by_cases same : other.next = thread.next
      · refine ⟨?_, ?_⟩
        · intro next inside
          have named : next.next ∈ (other.moves program place).map Thread.next :=
            List.mem_map.2 ⟨next, inside, rfl⟩
          rw [moves_next same] at named
          obtain ⟨twin, inside, equal⟩ := List.mem_map.1 named
          rw [← equal]
          exact covered twin (List.mem_append_left _ inside)
        · intro settled
          rw [isSettled_next same] at settled
          exact ⟨thread, by simp [settled], same.symm⟩
      · have unseen' : (seen.add thread.next).has other.next = false := by
          rw [Visited.has_add, unseen, Bool.or_false, beq_eq_false_iff_ne]
          exact same
        obtain ⟨next, kept⟩ := closed other there unseen'
        refine ⟨next, fun settled => ?_⟩
        obtain ⟨twin, inside, equal⟩ := kept settled
        exact ⟨twin, List.mem_append_right _ inside, equal⟩

/-- Leaving out what comes to nothing makes no difference to the first thread that comes to something. The
instructions left out are given with all they turn into. -/
theorem findSome?_settleAll {Result : Type} (result : Thread → Option Result)
    (dead : Nat → Bool)
    (closed : ∀ thread : Thread, dead thread.next = true →
      ∀ next ∈ thread.moves program place, dead next.next = true)
    (barren : ∀ thread : Thread, dead thread.next = true → thread.isSettled program = true →
      result thread = none)
    (more less : Visited) (long short : List Thread)
    (apart : ∀ number, more.has number = (less.has number || dead number))
    (alike : (long.filter fun thread => !dead thread.next) = short.filter fun thread => !dead thread.next) :
    (settleAll program place more long).findSome? result =
      (settleAll program place less short).findSome? result := by
  induction size : need program more long + need program less short using Nat.strongRecOn
    generalizing more less long short with
  | _ size ih =>
    subst size
    have drop (thread : Thread) (rest : List Thread) (gone : dead thread.next = true)
        (tail : long = thread :: rest) :
        (settleAll program place more long).findSome? result =
          (settleAll program place less short).findSome? result := by
      subst tail
      have there : more.has thread.next = true := by rw [apart, gone, Bool.or_true]
      have smaller := need_skip program more thread rest
      rw [settleAll_reached _ _ _ there]
      refine ih _ ?_ more less rest short apart ?_ rfl
      · omega
      · rw [← alike, List.filter_cons, gone]; rfl
    cases short with
    | nil =>
      cases long with
      | nil => rw [settleAll_nil, settleAll_nil]
      | cons thread rest =>
        cases gone : dead thread.next with
        | true => exact drop thread rest gone rfl
        | false => rw [List.filter_cons, gone] at alike; simp at alike
    | cons thread rest =>
      cases gone : dead thread.next with
      | true =>
        rw [List.filter_cons, gone] at alike
        cases there : less.has thread.next with
        | true =>
          have smaller := need_skip program less thread rest
          rw [settleAll_reached _ _ _ there]
          exact ih _ (by omega) more less long rest apart alike rfl
        | false =>
          have smaller := need_moves program place less thread rest there
          rw [settleAll_fresh _ _ _ there, List.findSome?_append]
          have nothing : (if thread.isSettled program then [thread] else []).findSome? result = none := by
            cases settled : thread.isSettled program with
            | true => simp [barren thread gone settled]
            | false => rfl
          rw [nothing, Option.none_or]
          refine ih _ (by omega) more (less.add thread.next) long _ ?_ ?_ rfl
          · intro number
            rw [apart, Visited.has_add]
            by_cases same : number = thread.next
            · subst same; rw [gone, Bool.or_true, Bool.or_true]
            · rw [beq_eq_false_iff_ne.2 same, Bool.false_or]
          · rw [List.filter_append]
            have empty : ((thread.moves program place).filter fun next => !dead next.next) = [] := by
              rw [List.filter_eq_nil_iff]
              intro next inside
              rw [closed thread gone next inside]
              simp
            rw [empty, List.nil_append]
            exact alike
      | false =>
        cases long with
        | nil => rw [List.filter_cons, gone] at alike; simp at alike
        | cons other others =>
          cases gone' : dead other.next with
          | true => exact drop other others gone' rfl
          | false =>
            rw [List.filter_cons, List.filter_cons, gone, gone'] at alike
            simp only [Bool.not_false, if_true, List.cons.injEq] at alike
            obtain ⟨rfl, alike⟩ := alike
            have equal : more.has other.next = less.has other.next := by rw [apart, gone, Bool.or_false]
            cases there : less.has other.next with
            | true =>
              have smaller := need_skip program less other rest
              have smaller' := need_skip program more other others
              rw [settleAll_reached _ _ _ there, settleAll_reached _ _ _ (equal.trans there)]
              exact ih _ (by omega) more less others rest apart alike rfl
            | false =>
              have smaller := need_moves program place less other rest there
              have smaller' :=
                need_moves program place more other others (equal.trans there)
              rw [settleAll_fresh _ _ _ there, settleAll_fresh _ _ _ (equal.trans there),
                List.findSome?_append, List.findSome?_append]
              congr 1
              refine ih _ (by omega) _ _ _ _ ?_ ?_ rfl
              · intro number
                rw [Visited.has_add, Visited.has_add, apart, Bool.or_assoc]
              · rw [List.filter_append, List.filter_append, alike]

/-- A result that only depends on the instruction, as far as there is one. -/
def Uniform {Result : Type} (result : Thread → Option Result) : Prop :=
  ∀ thread other : Thread, thread.next = other.next → result thread = none → result other = none

-- The threads of one stack after another come to what the first comes to, or else the second.
theorem findSome?_append {Result : Type} (result : Thread → Option Result) (uniform : Uniform result)
    (first second : List Thread) :
    (settleAll program place .none (first ++ second)).findSome? result =
      ((settleAll program place .none first).findSome? result).or
        ((settleAll program place .none second).findSome? result) := by
  obtain ⟨after, split, _, _, closed⟩ :=
    settleAll_append program place .none first second
  rw [split, List.findSome?_append]
  cases found : (settleAll program place .none first).findSome? result with
  | some value => rfl
  | none =>
    rw [Option.none_or, Option.none_or]
    have unseen (number : Nat) : Visited.has .none number = false := by cases number <;> rfl
    refine findSome?_settleAll result after.has ?_ ?_ after .none second second ?_ rfl
    · intro thread there
      exact (closed thread there (unseen _)).1
    · intro thread there settled
      obtain ⟨kept, inside, same⟩ := (closed thread there (unseen _)).2 settled
      exact uniform kept thread same (List.findSome?_eq_none_iff.1 found kept inside)
    · intro number
      rw [unseen, Bool.false_or]

-- What is settled is enough fuel for it.
theorem settled_eq (threads : List Thread) :
    settled program place threads = settleAll program place .none threads := by
  refine settle_eq_settleAll _ _ _ ?_
  have bound : unseen program .none ≤ program.size := by
    have counted : unseen program .none ≤ (List.range program.size).length := List.countP_le_length
    rw [List.length_range] at counted
    exact counted
  unfold need
  omega

theorem findSome?_settled {Result : Type} (result : Thread → Option Result) (uniform : Uniform result)
    (threads : List Thread) :
    (settled program place threads).findSome? result =
      threads.findSome? fun thread => (settled program place [thread]).findSome? result := by
  induction threads with
  | nil => rw [settled_eq, settleAll_nil]; rfl
  | cons thread rest ih =>
    rw [List.findSome?_cons, ← ih, settled_eq, settled_eq, settled_eq,
      show thread :: rest = [thread] ++ rest from rfl, findSome?_append result uniform]
    cases (settleAll program place .none [thread]).findSome? result <;> rfl

-- The instructions that threads settle at depend on their instructions alone.
theorem settle_next (fuel : Nat) (seen : Visited) (threads others : List Thread)
    (same : threads.map next = others.map next) :
    (settle program place fuel seen threads).map next = (settle program place fuel seen others).map next := by
  induction fuel generalizing seen threads others with
  | zero => rfl
  | succ fuel ih =>
    cases threads with
    | nil =>
      cases others with
      | nil => rfl
      | cons other rest => simp at same
    | cons thread rest =>
      cases others with
      | nil => simp at same
      | cons other rest' =>
        simp only [List.map_cons, List.cons.injEq] at same
        obtain ⟨here, same⟩ := same
        cases reached : seen.has thread.next with
        | true =>
          rw [settle, settle, ← here, reached, if_pos rfl, if_pos rfl]
          exact ih seen rest rest' same
        | false =>
          rw [settle_fresh _ _ _ _ reached, settle_fresh _ _ _ _ (here ▸ reached), List.map_append,
            List.map_append, isSettled_next here, here]
          congr 1
          · cases other.isSettled program <;> simp [here]
          · refine ih _ _ _ ?_
            rw [List.map_append, List.map_append, moves_next here, same]

theorem uniform_settled {Result : Type} (result : Thread → Option Result) (uniform : Uniform result) :
    Uniform fun thread => (settled program place [thread]).findSome? result := by
  intro thread other same nothing
  rw [List.findSome?_eq_none_iff] at nothing ⊢
  intro kept inside
  have named : kept.next ∈ (settled program place [other]).map Thread.next :=
    List.mem_map.2 ⟨kept, inside, rfl⟩
  rw [settled, ← settle_next _ _ [thread] [other] (by simp [same])] at named
  obtain ⟨twin, there, equal⟩ := List.mem_map.1 named
  exact uniform twin kept equal (nothing twin there)

end TextMigration.Pattern.Thread
