import Mathlib.Data.List.Forall2
import TextMigration.Proofs.Diffing.Grouped

/-!
What hunks tell of two lists of lines, and when it is true. Each hunk is told by its range in both lists and by its
marked lines. `Replays` follows told hunks through both lists at once; whatever it follows is `Faithful`: the ranges
go up and do not overlap, each has as many lines as are marked for it and these lines, and the lists are the same
outside of them, so that one is the other with the ranges replaced.
-/

namespace TextMigration.LineDiff

abbrev Told := Hunk.Header × List (Mark × Text)

def oldLines (lines : List (Mark × Text)) : List Text := (lines.filter fun line => line.1 ≠ .added).map Prod.snd

def newLines (lines : List (Mark × Text)) : List Text := (lines.filter fun line => line.1 ≠ .dropped).map Prod.snd

def IsCounted (hunk : Told) : Prop :=
  hunk.1.oldLength = (oldLines hunk.2).length ∧ hunk.1.newLength = (newLines hunk.2).length

instance (hunk : Told) : Decidable (IsCounted hunk) := inferInstanceAs (Decidable (_ ∧ _))

/-- Lines with each range, a start and a length, replaced. The ranges count lines from zero; `gone` lines are before
those that are given. -/
def replaceFrom : Nat → List ((Nat × Nat) × List Text) → List Text → List Text
  | _, [], lines => lines
  | gone, ((start, length), put) :: parts, lines =>
    lines.take (start - gone) ++ put ++ replaceFrom (start + length) parts (lines.drop (start - gone + length))

structure Faithful (old new : List Text) (hunks : List Told) : Prop where
  ascending : hunks.Pairwise fun hunk later => hunk.1.oldStart + hunk.1.oldLength ≤ later.1.oldStart ∧
    hunk.1.newStart + hunk.1.newLength ≤ later.1.newStart
  counted : ∀ hunk ∈ hunks, IsCounted hunk
  found : ∀ hunk ∈ hunks, (old.drop hunk.1.oldStart).take hunk.1.oldLength = oldLines hunk.2 ∧
    (new.drop hunk.1.newStart).take hunk.1.newLength = newLines hunk.2
  outside : replaceFrom 0 (hunks.map fun hunk => ((hunk.1.oldStart, hunk.1.oldLength), [])) old =
    replaceFrom 0 (hunks.map fun hunk => ((hunk.1.newStart, hunk.1.newLength), [])) new
  replayed : replaceFrom 0 (hunks.map fun hunk => ((hunk.1.oldStart, hunk.1.oldLength), newLines hunk.2)) old = new

/-- Hunks followed through both lists: lines that are in both, or the lines of the next hunk, are taken from each. -/
inductive Replays : Nat → Nat → List Told → List Text → List Text → Prop where
  | done {o n : Nat} : Replays o n [] [] []
  | kept {o n : Nat} {hunks : List Told} {old new : List Text} (lines : List Text)
    (rest : Replays (o + lines.length) (n + lines.length) hunks old new) :
    Replays o n hunks (lines ++ old) (lines ++ new)
  | hunk {o n : Nat} {hunks : List Told} {old new : List Text} (lines : List (Mark × Text))
    (rest : Replays (o + (oldLines lines).length) (n + (newLines lines).length) hunks old new) :
    Replays o n ((⟨o, (oldLines lines).length, n, (newLines lines).length⟩, lines) :: hunks)
      (oldLines lines ++ old) (newLines lines ++ new)

section Replaying

variable {o n : Nat} {hunks : List Told} {old new : List Text}

theorem Replays.counted (replays : Replays o n hunks old new) : ∀ hunk ∈ hunks, IsCounted hunk := by
  induction replays with
  | done => simp
  | kept _ _ ih => exact ih
  | hunk lines _ ih =>
    intro hunk member
    rcases List.mem_cons.mp member with rfl | later
    · exact ⟨rfl, rfl⟩
    · exact ih hunk later

-- A hunk is where it says, in the lines from here on.
theorem Replays.found (replays : Replays o n hunks old new) : ∀ hunk ∈ hunks,
    (o ≤ hunk.1.oldStart ∧ n ≤ hunk.1.newStart) ∧
      (old.drop (hunk.1.oldStart - o)).take hunk.1.oldLength = oldLines hunk.2 ∧
      (new.drop (hunk.1.newStart - n)).take hunk.1.newLength = newLines hunk.2 := by
  -- What is behind lines that are taken first is found behind them.
  have behind (front rest : List Text) {at_ start : Nat} (length : Nat) (le : at_ + front.length ≤ start) :
      ((front ++ rest).drop (start - at_)).take length = (rest.drop (start - (at_ + front.length))).take length := by
    rw [List.drop_append, List.drop_eq_nil_of_le (by omega), List.nil_append]
    congr 2
    omega
  induction replays with
  | done => simp
  | kept lines _ ih =>
    intro hunk member
    obtain ⟨starts, inOld, inNew⟩ := ih hunk member
    refine ⟨by omega, ?_, ?_⟩
    · rw [behind lines _ _ starts.1, inOld]
    · rw [behind lines _ _ starts.2, inNew]
  | hunk lines _ ih =>
    intro hunk member
    rcases List.mem_cons.mp member with rfl | later
    · simp
    · obtain ⟨starts, inOld, inNew⟩ := ih hunk later
      refine ⟨by omega, ?_, ?_⟩
      · rw [behind _ _ _ starts.1, inOld]
      · rw [behind _ _ _ starts.2, inNew]

theorem Replays.ascending (replays : Replays o n hunks old new) :
    hunks.Pairwise fun hunk later => hunk.1.oldStart + hunk.1.oldLength ≤ later.1.oldStart ∧
      hunk.1.newStart + hunk.1.newLength ≤ later.1.newStart := by
  induction replays with
  | done => exact .nil
  | kept _ _ ih => exact ih
  | hunk lines rest ih => exact .cons (fun later member => (rest.found later member).1) ih

theorem replaceFrom_append {gone : Nat} {parts : List ((Nat × Nat) × List Text)} (front lines : List Text)
    (later : ∀ part ∈ parts, gone + front.length ≤ part.1.1) :
    replaceFrom gone parts (front ++ lines) = front ++ replaceFrom (gone + front.length) parts lines := by
  cases parts with
  | nil => rfl
  | cons part parts =>
    obtain ⟨⟨start, length⟩, put⟩ := part
    have after : gone + front.length ≤ start := later _ List.mem_cons_self
    have taken : start - gone = front.length + (start - (gone + front.length)) := by omega
    simp only [replaceFrom, taken, List.take_length_add_append, Nat.add_assoc, List.drop_length_add_append,
      List.append_assoc]

theorem replaceFrom_here {gone : Nat} (part lines put : List Text) (parts : List ((Nat × Nat) × List Text)) :
    replaceFrom gone (((gone, part.length), put) :: parts) (part ++ lines) =
      put ++ replaceFrom (gone + part.length) parts lines := by
  simp [replaceFrom]

theorem Replays.outside (replays : Replays o n hunks old new) :
    replaceFrom o (hunks.map fun hunk => ((hunk.1.oldStart, hunk.1.oldLength), [])) old =
      replaceFrom n (hunks.map fun hunk => ((hunk.1.newStart, hunk.1.newLength), [])) new := by
  induction replays with
  | done => rfl
  | kept lines rest ih =>
    rw [replaceFrom_append, replaceFrom_append, ih]
    · exact List.forall_mem_map.mpr fun hunk member => (rest.found hunk member).1.2
    · exact List.forall_mem_map.mpr fun hunk member => (rest.found hunk member).1.1
  | hunk lines _ ih => rw [List.map_cons, List.map_cons, replaceFrom_here, replaceFrom_here, ih]

theorem Replays.replayed (replays : Replays o n hunks old new) :
    replaceFrom o (hunks.map fun hunk => ((hunk.1.oldStart, hunk.1.oldLength), newLines hunk.2)) old = new := by
  induction replays with
  | done => rfl
  | kept lines rest ih =>
    rw [replaceFrom_append, ih]
    exact List.forall_mem_map.mpr fun hunk member => (rest.found hunk member).1.1
  | hunk lines _ ih => rw [List.map_cons, replaceFrom_here, ih]

theorem Replays.faithful (replays : Replays 0 0 hunks old new) : Faithful old new hunks where
  ascending := replays.ascending
  counted := replays.counted
  found hunk member := by simpa using (replays.found hunk member).2
  outside := replays.outside
  replayed := replays.replayed

end Replaying

section Telling

variable {old new : List Text} {step : Block → Point → Point → Prop} {block : Block} {hunk : Hunk} {hunks : List Hunk}
  {p q : Point} {header : Hunk.Header}

def Hunk.told? (old new : List Text) (hunk : Hunk) : Option Told :=
  hunk.header?.map fun header => (header, hunk.lines old.toArray new.toArray)

def told (old new : List Text) : List Told := (Hunk.ofLines old new).filterMap (Hunk.told? old new)

def rangeOf (p q : Point) : Hunk.Header := ⟨p.1, q.1 - p.1, p.2, q.2 - p.2⟩

structure Between (old new : List Text) (lines : List (Mark × Text)) (p q : Point) : Prop where
  oldStop : q.1 = p.1 + (oldLines lines).length
  newStop : q.2 = p.2 + (newLines lines).length
  inOld : old.drop p.1 = oldLines lines ++ old.drop q.1
  inNew : new.drop p.2 = newLines lines ++ new.drop q.2

theorem oldLines_append (front back : List (Mark × Text)) :
    oldLines (front ++ back) = oldLines front ++ oldLines back := by
  simp [oldLines]

theorem newLines_append (front back : List (Mark × Text)) :
    newLines (front ++ back) = newLines front ++ newLines back := by
  simp [newLines]

theorem oldLines_marked (mark : Mark) (lines : List Text) :
    oldLines (lines.map fun line => (mark, line)) = if mark = .added then [] else lines := by
  cases mark <;> simp [oldLines, List.filter_map, Function.comp_def]

theorem newLines_marked (mark : Mark) (lines : List Text) :
    newLines (lines.map fun line => (mark, line)) = if mark = .dropped then [] else lines := by
  cases mark <;> simp [newLines, List.filter_map, Function.comp_def]

-- Where a stretch has no lines, its place does not matter.
theorem drop_eq_slice_append (items : List Text) {start place length : Nat} (here : length ≠ 0 → start = place) :
    items.drop place = slice items.toArray start length ++ items.drop (place + length) := by
  rw [slice_eq]
  by_cases none : length = 0
  · simp [none]
  · rw [here none, ← List.drop_drop, List.take_append_drop]

theorem Block.Leads.between (leads : block.Leads old new p q) :
    Between old new (block.lines old.toArray new.toArray) p q := by
  cases block with
  | same o n length =>
    obtain ⟨⟨_, rfl, rfl⟩, agree⟩ := leads
    have kept : oldLines ((same o n length).lines old.toArray new.toArray) = slice old.toArray o length ∧
        newLines ((same o n length).lines old.toArray new.toArray) = slice new.toArray n length := by
      simp only [lines, oldLines_marked, newLines_marked, slice_eq, agree.take_eq]
      exact ⟨rfl, rfl⟩
    constructor
    · rw [kept.1, length_slice agree.inOld]
    · rw [kept.2, length_slice agree.inNew]
    · rw [kept.1]
      exact drop_eq_slice_append old (fun _ => rfl)
    · rw [kept.2]
      exact drop_eq_slice_append new (fun _ => rfl)
  | changed o oldLength n newLength =>
    obtain ⟨rfl, inOld, inNew, oldEnd, newEnd⟩ := leads
    have changed : oldLines ((changed o oldLength n newLength).lines old.toArray new.toArray) =
          slice old.toArray o oldLength ∧
        newLines ((changed o oldLength n newLength).lines old.toArray new.toArray) =
          slice new.toArray n newLength := by
      simp [lines, oldLines_append, newLines_append, oldLines_marked, newLines_marked]
    constructor
    · rw [changed.1, length_slice oldEnd]
    · rw [changed.2, length_slice newEnd]
    · rw [changed.1]
      exact drop_eq_slice_append old inOld
    · rw [changed.2]
      exact drop_eq_slice_append new inNew

theorem Along.between {blocks : List Block} (along : Along (Block.Leads old new) p blocks q) :
    Between old new (Hunk.lines old.toArray new.toArray blocks) p q := by
  induction along with
  | nil => exact ⟨rfl, rfl, rfl, rfl⟩
  | @cons block blocks p r q first _ ih =>
    have here := first.between
    rw [Hunk.lines, List.flatMap_cons]
    constructor
    · rw [oldLines_append, List.length_append, ih.oldStop, here.oldStop, Hunk.lines]
      omega
    · rw [newLines_append, List.length_append, ih.newStop, here.newStop, Hunk.lines]
      omega
    · rw [oldLines_append, List.append_assoc, here.inOld, ih.inOld, Hunk.lines]
    · rw [newLines_append, List.append_assoc, here.inNew, ih.inNew, Hunk.lines]

theorem Hunk.Spans.exists_header (spans : hunk.Spans old new step p q) :
    ∃ first last r s, hunk.head? = some first ∧ step first p r ∧ hunk.getLast? = some last ∧ step last s q ∧
      hunk.header? = some ⟨first.oldStart, last.oldStop - first.oldStart, first.newStart,
        last.newStop - first.newStart⟩ := by
  have first := List.head?_eq_some_head spans.nonempty
  have last := List.getLast?_eq_some_getLast spans.nonempty
  obtain ⟨r, starts⟩ := spans.along.head first
  obtain ⟨s, stops⟩ := spans.along.last last
  refine ⟨_, _, r, s, first, starts, last, stops, ?_⟩
  rw [header?, first, last]
  rfl

theorem Hunk.Spans.header_of_counted (spans : hunk.Spans old new (Block.Leads old new) p q)
    (told : hunk.header? = some header) (oldCount : header.oldLength = q.1 - p.1)
    (newCount : header.newLength = q.2 - p.2) : header = rangeOf p q := by
  obtain ⟨first, last, r, s, head, starts, getLast, stops, same⟩ := spans.exists_header
  obtain rfl : _ = header := Option.some.inj (same.symm.trans told)
  have opens := spans.opens
  have closes := spans.closes
  rw [head, Option.all_some] at opens
  rw [getLast, Option.all_some] at closes
  simp only at oldCount newCount
  simp only [rangeOf, oldCount, newCount, Hunk.Header.mk.injEq, true_and, and_true]
  cases first with
  | same o n length =>
    obtain ⟨⟨_, rfl, _⟩, _⟩ := starts
    exact ⟨rfl, rfl⟩
  | changed o oldLength n newLength =>
    obtain ⟨_, _, _, oldEnd, newEnd⟩ := starts
    -- The hunk begins where both lists start, and it has kept lines at its end or goes to the ends of both.
    obtain rfl := opens.resolve_left (by simp [Block.isSame])
    cases last with
    | same o' n' length' =>
      obtain ⟨⟨some, _, rfl⟩, _⟩ := stops
      simp only [Block.oldStart, Block.oldStop, Block.newStart, Block.newStop] at *
      omega
    | changed o' oldLength' n' newLength' =>
      obtain rfl := closes.resolve_left (by simp [Block.isSame])
      obtain ⟨_, _, _, oldEnd', newEnd'⟩ := stops
      simp only [Block.oldStart, Block.oldStop, Block.newStart, Block.newStop] at *
      omega

end Telling

end TextMigration.LineDiff
