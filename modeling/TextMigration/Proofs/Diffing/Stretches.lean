import TextMigration.LineDiff.Edit

/-!
Stretches of two lists of lines that are the same, by their places; and walks, where each item of a list leads from
one state to the next. A script, a list of blocks and a hunk are read as walks through both lists.
-/

namespace TextMigration.LineDiff

section Along

variable {σ α : Type} {step wider : α → σ → σ → Prop} {items front back : List α} {item : α} {p q r : σ}

/-- The items lead from one state to another, each from where the one before it led. -/
inductive Along (step : α → σ → σ → Prop) : σ → List α → σ → Prop where
  | nil {p : σ} : Along step p [] p
  | cons {item : α} {items : List α} {p q r : σ} (first : step item p q) (rest : Along step q items r) :
    Along step p (item :: items) r

@[simp] theorem along_nil_iff : Along step p [] q ↔ p = q := by
  constructor
  · intro along
    cases along
    rfl
  · rintro rfl
    exact .nil

@[simp] theorem along_cons_iff : Along step p (item :: items) r ↔ ∃ q, step item p q ∧ Along step q items r := by
  constructor
  · intro along
    cases along with
    | cons first rest => exact ⟨_, first, rest⟩
  · rintro ⟨q, first, rest⟩
    exact .cons first rest

theorem along_append_iff : Along step p (front ++ back) r ↔ ∃ q, Along step p front q ∧ Along step q back r := by
  induction front generalizing p with
  | nil => simp
  | cons item front ih =>
    simp only [List.cons_append, along_cons_iff, ih]
    constructor
    · rintro ⟨q, first, s, rest, behind⟩
      exact ⟨s, ⟨q, first, rest⟩, behind⟩
    · rintro ⟨s, ⟨q, first, rest⟩, behind⟩
      exact ⟨q, first, s, rest, behind⟩

theorem along_concat_iff : Along step p (front ++ [item]) r ↔ ∃ q, Along step p front q ∧ step item q r := by
  simp [along_append_iff]

theorem Along.head (along : Along step p items r) (first : items.head? = some item) : ∃ q, step item p q := by
  cases along with
  | nil => simp at first
  | cons here _ =>
    simp only [List.head?_cons, Option.some.injEq] at first
    exact ⟨_, first ▸ here⟩

theorem Along.last (along : Along step p items r) (last : items.getLast? = some item) : ∃ q, step item q r := by
  obtain ⟨front, rfl⟩ := List.getLast?_eq_some_iff.mp last
  obtain ⟨q, _, here⟩ := along_concat_iff.mp along
  exact ⟨q, here⟩

theorem Along.imp (implies : ∀ item p q, step item p q → wider item p q) (along : Along step p items r) :
    Along wider p items r := by
  induction along with
  | nil => exact .nil
  | cons first _ ih => exact .cons (implies _ _ _ first) ih

-- Where the items leave no choice of the next state, two walks from one state are one.
theorem Along.both (same : ∀ item p q r, step item p q → wider item p r → q = r) (along : Along step p items q)
    (along' : Along wider p items r) : Along (fun item p q => step item p q ∧ wider item p q) p items q := by
  induction along with
  | nil => exact .nil
  | cons first _ ih =>
    obtain ⟨s, first', rest'⟩ := along_cons_iff.mp along'
    obtain rfl := same _ _ _ _ first first'
    exact .cons ⟨first, first'⟩ (ih rest')

end Along

section Agree

variable {α : Type} {items old new part : List α} {o n a b start length : Nat}

structure Agree (old new : List α) (o n length : Nat) : Prop where
  inOld : o + length ≤ old.length
  inNew : n + length ≤ new.length
  same : ∀ i < length, old[o + i]? = new[n + i]?

theorem agree_add_iff : Agree old new o n (a + b) ↔ Agree old new o n a ∧ Agree old new (o + a) (n + a) b := by
  constructor
  · rintro ⟨inOld, inNew, same⟩
    refine ⟨⟨by omega, by omega, fun i less => same i (by omega)⟩, ⟨by omega, by omega, fun i less => ?_⟩⟩
    simpa [Nat.add_assoc] using same (a + i) (by omega)
  · rintro ⟨front, back⟩
    refine ⟨by have := back.inOld; omega, by have := back.inNew; omega, fun i less => ?_⟩
    rcases Nat.lt_or_ge i a with before | behind
    · exact front.same i before
    · have := back.same (i - a) (by omega)
      rwa [show o + a + (i - a) = o + i by omega, show n + a + (i - a) = n + i by omega] at this

theorem Agree.take_eq (agree : Agree old new o n length) :
    (old.drop o).take length = (new.drop n).take length := by
  apply List.ext_getElem?
  intro i
  rw [List.getElem?_take, List.getElem?_take]
  split
  · next less => rw [List.getElem?_drop, List.getElem?_drop, agree.same i less]
  · rfl

structure At (items part : List α) (start : Nat) : Prop where
  inside : start + part.length ≤ items.length
  same : ∀ i < part.length, items[start + i]? = part[i]?

theorem At.whole (items : List α) : At items items 0 := ⟨by omega, by simp⟩

theorem At.take (here : At items part start) (length : Nat) : At items (part.take length) start where
  inside := by
    have := here.inside
    rw [List.length_take]
    omega
  same i less := by
    rw [List.length_take] at less
    rw [here.same i (by omega), List.getElem?_take, if_pos (by omega)]

theorem At.drop (here : At items part start) {length : Nat} (short : length ≤ part.length) :
    At items (part.drop length) (start + length) where
  inside := by
    have := here.inside
    rw [List.length_drop]
    omega
  same i less := by
    rw [List.length_drop] at less
    rw [List.getElem?_drop, Nat.add_assoc, here.same (length + i) (by omega)]

theorem slice_eq (items : List α) (start length : Nat) :
    slice items.toArray start length = (items.drop start).take length := by
  simp [slice, List.extract_eq_take_drop]

theorem at_slice (inside : start + length ≤ items.length) :
    At items (slice items.toArray start length) start := by
  have whole := ((At.whole items).drop (Nat.le_of_add_right_le inside)).take length
  rwa [Nat.zero_add, ← slice_eq] at whole

theorem length_slice (inside : start + length ≤ items.length) : (slice items.toArray start length).length = length := by
  rw [slice_eq, List.length_take, List.length_drop]
  omega

section Shared

variable [DecidableEq α] {as bs : List α}

theorem sharedStart_same (as bs : List α) : sharedStart as bs ≤ as.length ∧ sharedStart as bs ≤ bs.length ∧
    ∀ i < sharedStart as bs, as[i]? = bs[i]? := by
  fun_induction sharedStart as bs with
  | case1 a as bs ih =>
    obtain ⟨shortOld, shortNew, same⟩ := ih
    refine ⟨by simpa using shortOld, by simpa using shortNew, fun i less => ?_⟩
    cases i with
    | zero => rfl
    | succ i => simpa using same i (by omega)
  | case2 => simp
  | case3 => simp

theorem sharedEnd_same (as bs : List α) : sharedEnd as bs ≤ as.length ∧ sharedEnd as bs ≤ bs.length ∧
    ∀ i < sharedEnd as bs, as[as.length - sharedEnd as bs + i]? = bs[bs.length - sharedEnd as bs + i]? := by
  obtain ⟨shortOld, shortNew, same⟩ := sharedStart_same as.reverse bs.reverse
  rw [List.length_reverse] at shortOld shortNew
  rw [sharedEnd]
  generalize sharedStart as.reverse bs.reverse = shared at shortOld shortNew same
  refine ⟨shortOld, shortNew, fun i less => ?_⟩
  have mirrored := same (shared - 1 - i) (by omega)
  rw [List.getElem?_reverse (by omega), List.getElem?_reverse (by omega)] at mirrored
  rwa [show as.length - shared + i = as.length - 1 - (shared - 1 - i) by omega,
    show bs.length - shared + i = bs.length - 1 - (shared - 1 - i) by omega]

theorem agree_sharedStart (oldAt : At old as o) (newAt : At new bs n) : Agree old new o n (sharedStart as bs) := by
  obtain ⟨shortOld, shortNew, same⟩ := sharedStart_same as bs
  refine ⟨by have := oldAt.inside; omega, by have := newAt.inside; omega, fun i less => ?_⟩
  rw [oldAt.same i (by omega), newAt.same i (by omega), same i less]

theorem agree_sharedEnd (oldAt : At old as o) (newAt : At new bs n) :
    Agree old new (o + (as.length - sharedEnd as bs)) (n + (bs.length - sharedEnd as bs)) (sharedEnd as bs) := by
  obtain ⟨shortOld, shortNew, same⟩ := sharedEnd_same as bs
  refine ⟨by have := oldAt.inside; omega, by have := newAt.inside; omega, fun i less => ?_⟩
  rw [Nat.add_assoc, Nat.add_assoc, oldAt.same _ (by omega), newAt.same _ (by omega), same i less]

end Shared

end Agree

end TextMigration.LineDiff
