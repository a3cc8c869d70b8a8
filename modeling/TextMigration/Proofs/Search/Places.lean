import TextMigration.Proofs.Search.Settle

/-!
What a search finds. All threads go forward at once; the main statement is that they come to what each
place of the text would come to if it were tried alone, the first place first: `searchOn_eq_byPlace`.
-/

namespace TextMigration.Pattern

open Thread (Uniform settled)

variable {program : Array Instr}

/-- What a thread that takes a character comes to on the rest of a text. -/
def afterwards (program : Array Instr) (index : Nat) (c : Char) (rest : Text) (thread : Thread) :
    Option Outcome :=
  (settled program ⟨some c, rest.head?, index + 1⟩ [thread]).findSome? fun thread =>
    follow program false (index + 1) [thread] none rest

def arrived (index : Nat) (thread : Thread) : Outcome := ⟨thread.start, index, thread.slots⟩

def moved (program : Array Instr) (c : Char) (threads : List Thread) : List Thread :=
  (threads.takeWhile fun thread => !thread.isDone program).filterMap fun thread => thread.take? program c

def goOn (program : Array Instr) (seeking : Bool) (index : Nat) (c : Char) (rest : Text)
    (best : Option Outcome) (threads : List Thread) : Option Outcome :=
  match threads with
  | [] => best
  | threads =>
    follow program seeking (index + 1) (settled program ⟨some c, rest.head?, index + 1⟩ threads) best rest

theorem follow_nil (seeking : Bool) (index : Nat) (threads : List Thread) (best : Option Outcome) :
    follow program seeking index threads best [] =
      match threads.find? fun thread => thread.isDone program with
      | some thread => some (arrived index thread)
      | none => best := by
  rw [follow]; rfl

theorem follow_cons (seeking : Bool) (index : Nat) (threads : List Thread) (best : Option Outcome)
    (c : Char) (rest : Text) :
    follow program seeking index threads best (c :: rest) =
      match threads.find? fun thread => thread.isDone program with
      | some thread =>
        goOn program seeking index c rest (some (arrived index thread)) (moved program c threads)
      | none =>
        goOn program seeking index c rest best
          (moved program c threads ++
            if seeking && best.isNone then [Thread.starting (index + 1)] else []) := by
  rw [follow]
  unfold goOn moved
  cases threads.find? fun thread => thread.isDone program with
  | some thread =>
    simp only [Option.isNone_some, Bool.and_false, Bool.false_eq_true, if_false, List.append_nil]
    rfl
  | none => rfl

-- A match that is there is kept unless a preferred thread finds another; then nothing new begins.
theorem follow_some (seeking : Bool) (index : Nat) (threads : List Thread) (best : Outcome) (text : Text) :
    follow program seeking index threads (some best) text =
      some ((follow program false index threads none text).getD best) := by
  induction text generalizing seeking index threads best with
  | nil =>
    rw [follow_nil, follow_nil]
    cases threads.find? fun thread => thread.isDone program <;> rfl
  | cons c rest ih =>
    have step (seeking : Bool) (best : Outcome) (threads : List Thread) :
        goOn program seeking index c rest (some best) threads =
          some ((goOn program false index c rest none threads).getD best) := by
      cases threads with
      | nil => rfl
      | cons thread threads => exact ih seeking _ _ best
    rw [follow_cons, follow_cons]
    cases threads.find? fun thread => thread.isDone program with
    | some thread =>
      simp only
      rw [step, step false, Option.getD_some]
    | none =>
      simp only [Option.isNone_some, Bool.and_false, Bool.false_and, Bool.false_eq_true, if_false]
      exact step _ _ _

theorem goOn_some (seeking : Bool) (index : Nat) (c : Char) (rest : Text) (best : Outcome)
    (threads : List Thread) :
    goOn program seeking index c rest (some best) threads =
      some ((goOn program false index c rest none threads).getD best) := by
  cases threads with
  | nil => rfl
  | cons thread threads => exact follow_some _ _ _ _ _

theorem take?_next (program : Array Instr) {thread other : Thread} (same : thread.next = other.next)
    (c : Char) :
    (thread.take? program c).map Thread.next = (other.take? program c).map Thread.next := by
  unfold Thread.take?
  rw [same]
  split <;> try rfl
  split <;> rfl

theorem isDone_next {thread other : Thread} (same : thread.next = other.next) :
    thread.isDone program = other.isDone program := by
  unfold Thread.isDone
  rw [same]

-- What one thread comes to, once it is settled.
theorem follow_single (index : Nat) (thread : Thread) (c : Char) (rest : Text)
    (each : ∀ threads, goOn program false index c rest none threads =
      threads.findSome? (afterwards program index c rest)) :
    follow program false index [thread] none (c :: rest) =
      if thread.isDone program then some (arrived index thread)
      else (thread.take? program c).bind (afterwards program index c rest) := by
  rw [follow_cons, List.find?_singleton]
  cases done : thread.isDone program with
  | true => simp [moved, done, goOn]
  | false =>
    simp only [Bool.false_and, Bool.false_eq_true, if_false, List.append_nil]
    rw [each, moved, List.takeWhile_cons, done]
    simp only [Bool.not_false, if_true, List.takeWhile_nil, List.filterMap_cons, List.filterMap_nil]
    cases thread.take? program c with
    | none => rfl
    | some next => simp

/-- Threads come to what the first of them comes to that comes to anything, and whether one does depends on
its instruction alone. -/
theorem follow_eq_findSome? (text : Text) (index : Nat) :
    (∀ threads, follow program false index threads none text =
      threads.findSome? fun thread => follow program false index [thread] none text) ∧
    Uniform fun thread => follow program false index [thread] none text := by
  induction text generalizing index with
  | nil =>
    constructor
    · intro threads
      rw [follow_nil]
      induction threads with
      | nil => rfl
      | cons thread rest ih =>
        rw [List.find?_cons, List.findSome?_cons, follow_nil, List.find?_singleton, ← ih]
        cases thread.isDone program <;> rfl
    · intro thread other same nothing
      simp only [follow_nil, List.find?_singleton] at nothing ⊢
      rw [← isDone_next same]
      cases done : thread.isDone program with
      | true => rw [done] at nothing; simp at nothing
      | false => rfl
  | cons c rest ih =>
    have uniform : Uniform (afterwards program index c rest) := Thread.uniform_settled _ (ih (index + 1)).2
    have each (threads : List Thread) :
        goOn program false index c rest none threads = threads.findSome? (afterwards program index c rest) := by
      cases threads with
      | nil => rfl
      | cons thread threads =>
        rw [goOn, (ih (index + 1)).1, Thread.findSome?_settled _ (ih (index + 1)).2]
        · rfl
        · simp
    constructor
    · intro threads
      rw [follow_cons]
      simp only [follow_single _ _ _ _ each, Bool.false_and, Bool.false_eq_true, if_false, List.append_nil]
      induction threads with
      | nil => rfl
      | cons thread more ih' =>
        rw [List.find?_cons, List.findSome?_cons, ← ih']
        cases done : thread.isDone program with
        | true =>
          simp [moved, done, goOn]
        | false =>
          have front : moved program c (thread :: more) =
              (thread.take? program c).toList ++ moved program c more := by
            rw [moved, List.takeWhile_cons, done]
            simp only [Bool.not_false, if_true, List.filterMap_cons]
            cases thread.take? program c <;> rfl
          have first : (thread.take? program c).toList.findSome? (afterwards program index c rest) =
              (thread.take? program c).bind (afterwards program index c rest) := by
            cases thread.take? program c with
            | none => rfl
            | some next => simp
          simp only [Bool.false_eq_true, if_false]
          rw [front]
          cases more.find? fun thread => thread.isDone program with
          | some last =>
            simp only
            rw [goOn_some, goOn_some, each, each, List.findSome?_append, first]
            cases (thread.take? program c).bind (afterwards program index c rest) <;> rfl
          | none =>
            simp only
            rw [each, each, List.findSome?_append, first]
            cases (thread.take? program c).bind (afterwards program index c rest) <;> rfl
    · intro thread other same nothing
      simp only [follow_single _ _ _ _ each] at nothing ⊢
      rw [← isDone_next same]
      cases done : thread.isDone program with
      | true => rw [done] at nothing; simp at nothing
      | false =>
        rw [done] at nothing
        have equal := take?_next program same c
        cases taken : thread.take? program c with
        | none =>
          rw [taken] at equal
          cases taken' : other.take? program c with
          | none => rfl
          | some next => rw [taken'] at equal; simp at equal
        | some next =>
          rw [taken] at equal nothing
          cases taken' : other.take? program c with
          | none => rfl
          | some next' =>
            rw [taken'] at equal
            exact uniform next next' (Option.some.inj equal) nothing

def later (program : Array Instr) : Nat → Text → Option Outcome
  | _, [] => none
  | index, c :: rest => (matchAt program (index + 1) (some c) rest).or (later program (index + 1) rest)

theorem goOn_eq_findSome? (index : Nat) (c : Char) (rest : Text) (threads : List Thread) :
    goOn program false index c rest none threads = threads.findSome? (afterwards program index c rest) := by
  cases threads with
  | nil => rfl
  | cons thread threads =>
    rw [goOn, (follow_eq_findSome? rest (index + 1)).1,
      Thread.findSome?_settled _ (follow_eq_findSome? rest (index + 1)).2]
    · rfl
    · simp

-- The threads under way come first, and then the places that are still to come.
theorem follow_seeking (text : Text) (index : Nat) (threads : List Thread) :
    follow program true index threads none text =
      (follow program false index threads none text).or (later program index text) := by
  induction text generalizing index threads with
  | nil => rw [follow_nil, follow_nil, later, Option.or_none]
  | cons c rest ih =>
    rw [follow_cons, follow_cons]
    cases threads.find? fun thread => thread.isDone program with
    | some thread =>
      simp only
      rw [goOn_some, goOn_some]
      rfl
    | none =>
      simp only [Option.isNone_none, Bool.and_self, if_true, Bool.false_and, Bool.false_eq_true, if_false,
        List.append_nil]
      have begun (threads : List Thread) :
          goOn program true index c rest none (threads ++ [Thread.starting (index + 1)]) =
            (goOn program false index c rest none (threads ++ [Thread.starting (index + 1)])).or
              (later program (index + 1) rest) := by
        cases threads with
        | nil => exact ih _ _
        | cons thread threads => exact ih _ _
      have alone : [Thread.starting (index + 1)].findSome? (afterwards program index c rest) =
          matchAt program (index + 1) (some c) rest := by
        rw [matchAt, (follow_eq_findSome? rest (index + 1)).1]
        simp [afterwards]
      rw [begun, goOn_eq_findSome?, goOn_eq_findSome?, List.findSome?_append, alone, Option.or_assoc, later]

theorem search_eq (index : Nat) (before : Option Char) (text : Text) :
    search program index before text = (matchAt program index before text).or (later program index text) :=
  follow_seeking _ _ _

theorem Thread.start_moves {place : Place} {thread next : Thread} (inside : next ∈ thread.moves program place) :
    next.start = thread.start := by
  unfold Thread.moves at inside
  split at inside
  · simp only [List.mem_singleton] at inside; rw [inside]
  · simp only [List.mem_cons, List.not_mem_nil, or_false] at inside
    rcases inside with rfl | rfl <;> rfl
  · simp only [List.mem_singleton] at inside; rw [inside]
  · split at inside
    · simp only [List.mem_singleton] at inside; rw [inside]
    · simp at inside
  · simp at inside

-- Settled threads began where the threads that settled did.
theorem Thread.start_settle {place : Place} (start fuel : Nat) (seen : Visited) (stack : List Thread)
    (all : ∀ thread ∈ stack, thread.start = start) :
    ∀ thread ∈ Thread.settle program place fuel seen stack, thread.start = start := by
  induction fuel generalizing seen stack with
  | zero => intro thread inside; simp [Thread.settle] at inside
  | succ fuel ih =>
    cases stack with
    | nil => intro thread inside; simp [Thread.settle] at inside
    | cons first rest =>
      have tail : ∀ thread ∈ rest, thread.start = start := fun thread inside =>
        all thread (List.mem_cons_of_mem _ inside)
      cases reached : seen.has first.next with
      | true =>
        rw [Thread.settle, reached, if_pos rfl]
        exact ih seen rest tail
      | false =>
        rw [Thread.settle_fresh _ _ _ _ reached]
        intro thread inside
        rcases List.mem_append.1 inside with here | there
        · have same : thread = first := by
            split at here
            · exact List.mem_singleton.1 here
            · simp at here
          rw [same]
          exact all first (List.mem_cons_self ..)
        · refine ih _ _ ?_ thread there
          intro next inside
          rcases List.mem_append.1 inside with moved | other
          · rw [Thread.start_moves moved]; exact all first (List.mem_cons_self ..)
          · exact tail next other

-- A match begins where its threads began.
theorem follow_start (start : Nat) (text : Text) (index : Nat) (threads : List Thread)
    (all : ∀ thread ∈ threads, thread.start = start) (best : Option Outcome)
    (before : ∀ found, best = some found → found.start = start) (found : Outcome)
    (result : follow program false index threads best text = some found) : found.start = start := by
  induction text generalizing index threads best with
  | nil =>
    rw [follow_nil] at result
    split at result
    · next thread there =>
      rw [← Option.some.inj result]
      exact all thread (List.mem_of_find?_eq_some there)
    · exact before found result
  | cons c rest ih =>
    have step (best : Option Outcome) (before : ∀ found, best = some found → found.start = start)
        (result : goOn program false index c rest best (moved program c threads) = some found) :
        found.start = start := by
      have starts : ∀ thread ∈ moved program c threads, thread.start = start := by
        intro thread inside
        unfold moved at inside
        obtain ⟨earlier, there, taken⟩ := List.mem_filterMap.1 inside
        have same : thread.start = earlier.start := by
          unfold Thread.take? at taken
          split at taken
          · split at taken
            · rw [← Option.some.inj taken]
            · simp at taken
          · simp at taken
        rw [same]
        exact all earlier ((List.takeWhile_sublist _).subset there)
      unfold goOn at result
      split at result
      · exact before found result
      · exact ih _ _ (Thread.start_settle start _ _ _ starts) best before result
    rw [follow_cons] at result
    split at result
    · next thread there =>
      refine step _ ?_ result
      intro other same
      rw [← Option.some.inj same]
      exact all thread (List.mem_of_find?_eq_some there)
    · simp only [Bool.false_and, Bool.false_eq_true, if_false, List.append_nil] at result
      exact step best before result

theorem matchAt_start {index : Nat} {before : Option Char} {text : Text} {found : Outcome}
    (result : matchAt program index before text = some found) : found.start = index := by
  refine follow_start index text index _ (Thread.start_settle index _ _ _ ?_) none (by simp) found result
  intro thread inside
  rw [List.mem_singleton.1 inside]
  rfl

theorem later_start {index : Nat} {text : Text} {found : Outcome}
    (result : later program index text = some found) : index < found.start := by
  induction text generalizing index with
  | nil => simp [later] at result
  | cons c rest ih =>
    rw [later, Option.or_eq_some_iff] at result
    rcases result with here | ⟨_, there⟩
    · rw [matchAt_start here]; exact Nat.lt_succ_self _
    · exact Nat.lt_trans (Nat.lt_succ_self _) (ih there)

theorem matchAt_nil_stop {index : Nat} {before : Option Char} {found : Outcome}
    (result : matchAt program index before [] = some found) : found.stop = index := by
  rw [matchAt, follow_nil] at result
  split at result
  · rw [← Option.some.inj result]; rfl
  · simp at result

/-- The first match that takes something, trying one place after another. -/
def byPlace (program : Array Instr) : Nat → Option Char → Text → Option Outcome
  | _, _, [] => none
  | index, before, c :: rest =>
    match matchAt program index before (c :: rest) with
    | none => byPlace program (index + 1) (some c) rest
    | some found =>
      if found.start < found.stop then some found else byPlace program (index + 1) (some c) rest

def byPlaceAfter (program : Array Instr) : Nat → Nat → Option Char → Text → Option Outcome
  | 0, index, before, text => byPlace program index before text
  | _ + 1, _, _, [] => none
  | skip + 1, index, _, c :: rest => byPlaceAfter program skip (index + 1) (some c) rest

/-- What becomes of a match: it counts if it takes something, and else the search goes on behind its
place. -/
def passOver (program : Array Instr) (index : Nat) (before : Option Char) (text : Text) (found : Outcome) :
    Option Outcome :=
  if found.start < found.stop then some found
  else byPlaceAfter program (found.start + 1 - index) index before text

theorem bind_passOver (text : Text) (index : Nat) (before : Option Char) :
    ((matchAt program index before text).or (later program index text)).bind
      (passOver program index before text) = byPlace program index before text := by
  induction text generalizing index before with
  | nil =>
    rw [later, Option.or_none, byPlace]
    cases result : matchAt program index before [] with
    | none => rfl
    | some found =>
      have start := matchAt_start result
      have stop := matchAt_nil_stop result
      rw [Option.bind_some, passOver, if_neg (by omega),
        show found.start + 1 - index = 0 + 1 by omega, byPlaceAfter]
  | cons c rest ih =>
    rw [byPlace]
    cases result : matchAt program index before (c :: rest) with
    | some found =>
      have start := matchAt_start result
      rw [Option.some_or, Option.bind_some, passOver]
      by_cases takes : found.start < found.stop
      · simp only [takes, if_true]
      · simp only [takes, if_false]
        rw [show found.start + 1 - index = 0 + 1 by omega, byPlaceAfter, byPlaceAfter]
    | none =>
      rw [Option.none_or, later, ← ih (index + 1) (some c)]
      have start : ∀ found, ((matchAt program (index + 1) (some c) rest).or
          (later program (index + 1) rest)) = some found → index < found.start := by
        intro found result
        rw [Option.or_eq_some_iff] at result
        rcases result with here | ⟨_, there⟩
        · rw [matchAt_start here]; exact Nat.lt_succ_self _
        · exact Nat.lt_trans (Nat.lt_succ_self _) (later_start there)
      cases there : (matchAt program (index + 1) (some c) rest).or (later program (index + 1) rest) with
      | none => rfl
      | some found =>
        have start := start found there
        rw [Option.bind_some, Option.bind_some, passOver, passOver,
          show found.start + 1 - index = (found.start + 1 - (index + 1)) + 1 by omega, byPlaceAfter]

theorem searchOn_eq_byPlace (text : Text) (skip index : Nat) (before : Option Char) :
    searchOn program skip index before text = byPlaceAfter program skip index before text := by
  induction text generalizing skip index before with
  | nil =>
    cases skip with
    | zero => rw [searchOn, byPlaceAfter, byPlace]
    | succ skip => rw [searchOn, byPlaceAfter]
  | cons c rest ih =>
    cases skip with
    | succ skip => rw [searchOn, byPlaceAfter, ih]
    | zero =>
      rw [byPlaceAfter, ← bind_passOver, ← search_eq, searchOn]
      cases result : search program index before (c :: rest) with
      | none => rfl
      | some found =>
        simp only [Option.bind_some]
        rw [passOver]
        split
        · rfl
        · have start : index ≤ found.start := by
            rw [search_eq, Option.or_eq_some_iff] at result
            rcases result with here | ⟨_, there⟩
            · exact Nat.le_of_eq (matchAt_start here).symm
            · exact Nat.le_of_lt (later_start there)
          rw [ih, show found.start + 1 - index = (found.start - index) + 1 by omega, byPlaceAfter]

end TextMigration.Pattern
