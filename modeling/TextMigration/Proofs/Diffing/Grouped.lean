import TextMigration.LineDiff.Hunk
import TextMigration.Proofs.Diffing.Settled

/-!
From a script to hunks. Joined edits are blocks that lead through both lists (`blocks_lead`), and grouping leaves out
nothing but lines that are the same in both (`ofLines_spread`). A block that has lines of one list only may be wrong
about its place in the other. Such a block can be at the start or at the end of a hunk only where a list starts or
ends, since anywhere else a hunk begins and ends with kept lines.
-/

namespace TextMigration.LineDiff

variable {old new : List Text} {block : Block} {blocks done : List Block} {edit : Edit} {edits : List Edit} {p q r : Point}

/-- What a block says of the lines between two points. Where it has no line of a list, it may be wrong about its
place there. -/
def Block.Leads (old new : List Text) : Block → Point → Point → Prop
  | same o n length, p, q => (0 < length ∧ p = (o, n) ∧ q = (o + length, n + length)) ∧ Agree old new o n length
  | changed o oldLength n newLength, p, q => q = (p.1 + oldLength, p.2 + newLength) ∧
      (oldLength ≠ 0 → o = p.1) ∧ (newLength ≠ 0 → n = p.2) ∧ o + oldLength ≤ old.length ∧ n + newLength ≤ new.length

def Spot.point (spot : Spot) : Point := (spot.old, spot.new)

theorem Along.push (before : Along (Block.Leads old new) p done.reverse q) (leads : block.Leads old new q r) :
    Along (Block.Leads old new) p (block :: done).reverse r := by
  rw [List.reverse_cons]
  exact along_concat_iff.mpr ⟨q, before, leads⟩

theorem Along.regrow {grown : Block} (before : Along (Block.Leads old new) p (block :: done).reverse q)
    (leads : ∀ s, block.Leads old new s q → grown.Leads old new s r) :
    Along (Block.Leads old new) p (grown :: done).reverse r := by
  rw [List.reverse_cons, along_concat_iff] at before ⊢
  obtain ⟨s, front, last⟩ := before
  exact ⟨s, front, leads s last⟩

theorem join_leads {p q : Spot} {start : Point} (before : Along (Block.Leads old new) start done.reverse p.point)
    (leads : edit.Leads old new p q) : Along (Block.Leads old new) start (Block.join done edit).reverse q.point := by
  cases edit with
  | keep o n length =>
    obtain ⟨lines, agree⟩ := leads
    have fresh : (Block.same o n length).Leads old new p.point q.point := by
      refine ⟨?_, agree⟩
      simp only [Spot.point, Prod.mk.injEq]
      omega
    rcases done with _ | ⟨_ | _, done⟩
    · exact before.push fresh
    · next o' n' length' =>
      refine before.regrow fun s last => ?_
      obtain ⟨⟨some, rfl, stop⟩, agree'⟩ := last
      simp only [Spot.point, Prod.mk.injEq] at stop
      rw [show o = o' + length' by omega, show n = n' + length' by omega] at agree
      refine ⟨⟨by omega, rfl, ?_⟩, agree_add_iff.mpr ⟨agree', agree⟩⟩
      simp only [Spot.point, Prod.mk.injEq]
      omega
    · exact before.push fresh
  | drop o length n =>
    simp only [Edit.Leads] at leads
    have fresh : (Block.changed o length n 0).Leads old new p.point q.point := by
      simp only [Block.Leads, Spot.point, Prod.mk.injEq]
      omega
    rcases done with _ | ⟨_ | _, done⟩
    · exact before.push fresh
    · exact before.push fresh
    · next o' oldLength n' newLength =>
      refine before.regrow fun s last => ?_
      simp only [Block.Leads, Spot.point, Prod.mk.injEq] at last ⊢
      split <;> omega
  | add o n length =>
    simp only [Edit.Leads] at leads
    have fresh : (Block.changed o 0 n length).Leads old new p.point q.point := by
      simp only [Block.Leads, Spot.point, Prod.mk.injEq]
      omega
    rcases done with _ | ⟨_ | _, done⟩
    · exact before.push fresh
    · exact before.push fresh
    · next o' oldLength n' newLength =>
      refine before.regrow fun s last => ?_
      simp only [Block.Leads, Spot.point, Prod.mk.injEq] at last ⊢
      split <;> omega

theorem blocks_lead (old new : List Text) :
    Along (Block.Leads old new) (0, 0) (Block.ofEdits (settle old.toArray new.toArray (script old new)))
      (old.length, new.length) := by
  obtain ⟨ahead, leads⟩ := settle_leads old new
  have joined : ∀ (edits : List Edit) (done : List Block) (p q : Spot),
      Along (Block.Leads old new) (0, 0) done.reverse p.point → Along (Edit.Leads old new) p edits q →
        Along (Block.Leads old new) (0, 0) (edits.foldl Block.join done).reverse q.point := by
    intro edits
    induction edits with
    | nil =>
      intro done p q before along
      rw [along_nil_iff] at along
      exact along ▸ before
    | cons edit edits ih =>
      intro done p q before along
      obtain ⟨r, first, rest⟩ := along_cons_iff.mp along
      exact ih _ r q (join_leads before first) rest
  exact joined _ [] _ _ .nil leads

section Grouping

variable {step : Block → Point → Point → Prop} {hunk pending : Hunk} {hunks : List Hunk} {o n length : Nat}

def Block.isSame : Block → Bool
  | same _ _ _ => true
  | changed _ _ _ _ => false

def ReadsKept (old new : List Text) (step : Block → Point → Point → Prop) : Prop :=
  ∀ o n length p q, step (.same o n length) p q ↔ (Block.same o n length).Leads old new p q

/-- A hunk goes from one point to another. It begins with kept lines or where both lists start, and it ends with
kept lines or where both lists end. -/
structure Hunk.Spans (old new : List Text) (step : Block → Point → Point → Prop) (hunk : Hunk) (p q : Point) :
    Prop where
  along : Along step p hunk q
  opens : hunk.head?.all Block.isSame = true ∨ p = (0, 0)
  closes : hunk.getLast?.all Block.isSame = true ∨ q = (old.length, new.length)
  nonempty : hunk ≠ []

/-- Hunks from a point on: between them there is nothing but lines that are the same in both lists. -/
inductive Spread (old new : List Text) (step : Block → Point → Point → Prop) : Point → List Hunk → Prop where
  | done : Spread old new step (old.length, new.length) []
  | gap {p : Point} {length : Nat} {hunks : List Hunk} (kept : Agree old new p.1 p.2 length)
    (rest : Spread old new step (p.1 + length, p.2 + length) hunks) : Spread old new step p hunks
  | hunk {p q : Point} {hunk : Hunk} {hunks : List Hunk} (spans : hunk.Spans old new step p q)
    (rest : Spread old new step q hunks) : Spread old new step p (hunk :: hunks)

theorem ReadsKept.along_same (reads : ReadsKept old new step) (some : 0 < length) (agree : Agree old new o n length) :
    step (.same o n length) (o, n) (o + length, n + length) :=
  (reads o n length _ _).mpr ⟨⟨some, rfl, rfl⟩, agree⟩

theorem ReadsKept.same_eq (reads : ReadsKept old new step) (kept : step (.same o n length) p q) :
    0 < length ∧ p = (o, n) ∧ q = (o + length, n + length) ∧ Agree old new o n length := by
  obtain ⟨⟨some, start, stop⟩, agree⟩ := (reads o n length p q).mp kept
  exact ⟨some, start, stop, agree⟩

theorem ReadsKept.cut (reads : ReadsKept old new step) (kept : step (.same o n length) p q)
    (long : 2 * context < length) :
    step (.same o n context) p (o + context, n + context) ∧
      Agree old new (o + context) (n + context) (length - context - context) ∧
      step (.same (o + (length - context)) (n + (length - context)) (length - (length - context)))
        (o + context + (length - context - context), n + context + (length - context - context)) q := by
  obtain ⟨_, rfl, rfl, agree⟩ := reads.same_eq kept
  have whole : length = context + (length - context - context) + context := by omega
  rw [whole, agree_add_iff, agree_add_iff] at agree
  obtain ⟨⟨ends, left⟩, begins⟩ := agree
  refine ⟨reads.along_same (by decide) ends, left, ?_⟩
  have shown := reads.along_same (by decide) begins
  have toNext : context + (length - context - context) = length - context := by omega
  rw [Nat.add_assoc o, Nat.add_assoc n, ← whole] at shown
  rw [Nat.add_assoc o, Nat.add_assoc n, toNext, show length - (length - context) = context by omega]
  rwa [toNext] at shown

theorem group_spread (reads : ReadsKept old new step) (before : Along step p pending r) (along : Along step r blocks q)
    (opens : (pending ++ blocks).head?.all Block.isSame = true ∨ p = (0, 0))
    (closes : (pending ++ blocks).getLast?.all Block.isSame = true ∨ q = (old.length, new.length))
    (behind : Spread old new step q []) : Spread old new step p (group pending blocks) := by
  induction blocks generalizing pending p r with
  | nil =>
    rw [along_nil_iff] at along
    subst along
    rw [List.append_nil] at opens closes
    -- Nothing is shown where only kept lines are left.
    rcases pending with _ | ⟨first, _ | ⟨second, pending⟩⟩
    · rw [along_nil_iff] at before
      exact before ▸ behind
    · cases first with
      | same o n length =>
        obtain ⟨s, kept, stop⟩ := along_cons_iff.mp before
        obtain ⟨_, rfl, same, agree⟩ := reads.same_eq kept
        rw [along_nil_iff] at stop
        exact .gap agree (same ▸ stop ▸ behind)
      | changed o oldLength n newLength => exact .hunk ⟨before, opens, closes, by simp⟩ behind
    · have shown : group (first :: second :: pending) [] = [first :: second :: pending] := by simp [group]
      rw [shown]
      exact .hunk ⟨before, opens, closes, by simp⟩ behind
  | cons block blocks ih =>
    obtain ⟨s, first, rest⟩ := along_cons_iff.mp along
    have goesOn : Along step p (pending ++ [block]) s := along_concat_iff.mpr ⟨r, before, first⟩
    have later : Spread old new step p (group (pending ++ [block]) blocks) :=
      ih goesOn rest (by simpa using opens) (by simpa using closes)
    cases block with
    | changed o oldLength n newLength => exact later
    | same o n length =>
      rw [group]
      split
      · next long =>
        obtain ⟨ends, left, begins⟩ := reads.cut first long
        refine .hunk ⟨along_concat_iff.mpr ⟨r, before, ends⟩, ?_, Or.inl (by simp [Block.isSame]), by simp⟩ (.gap left ?_)
        · cases pending with
          | nil => exact Or.inl rfl
          | cons first pending => simpa using opens
        · refine ih (.cons begins .nil) rest (Or.inl rfl) ?_
          cases blocks with
          | nil => exact Or.inl rfl
          | cons next blocks => simpa [List.getLast?_append, List.getLast?_cons] using closes
      · exact later

theorem trimStart_along (reads : ReadsKept old new step) (along : Along step (0, 0) blocks q) :
    ∃ gap, Agree old new 0 0 gap ∧ Along step (gap, gap) (trimStart blocks) q ∧
      ((trimStart blocks).head?.all Block.isSame = true ∨ gap = 0) := by
  have none : Agree old new 0 0 0 := ⟨by omega, by omega, by simp⟩
  rcases blocks with _ | ⟨first, blocks⟩
  · exact ⟨0, none, along, Or.inr rfl⟩
  cases first with
  | changed o oldLength n newLength => exact ⟨0, none, along, Or.inr rfl⟩
  | same o n length =>
    obtain ⟨s, kept, rest⟩ := along_cons_iff.mp along
    obtain ⟨some, start, rfl, agree⟩ := reads.same_eq kept
    obtain ⟨rfl, rfl⟩ := Prod.mk.inj start
    have whole : length = (length - context) + (length - (length - context)) := by omega
    rw [whole, agree_add_iff] at agree
    have shown := reads.along_same (by rw [context] at *; omega) agree.2
    rw [Nat.zero_add, ← whole] at shown
    rw [Nat.zero_add] at rest
    refine ⟨length - context, agree.1, ?_, Or.inl rfl⟩
    simp only [trimStart, Nat.zero_add]
    exact .cons shown rest

theorem trimEnd_cons (block : Block) (blocks : List Block) :
    ∃ first rest, trimEnd (block :: blocks) = first :: rest ∧ first.isSame = block.isSame := by
  cases blocks <;> cases block <;> exact ⟨_, _, rfl, rfl⟩

theorem trimEnd_along (reads : ReadsKept old new step) (along : Along step p blocks (old.length, new.length)) :
    ∃ q, Along step p (trimEnd blocks) q ∧ Spread old new step q [] ∧
      ((trimEnd blocks).getLast?.all Block.isSame = true ∨ q = (old.length, new.length)) := by
  induction blocks generalizing p with
  | nil => exact ⟨_, along, .done, Or.inr rfl⟩
  | cons block blocks ih =>
    obtain ⟨r, first, rest⟩ := along_cons_iff.mp along
    rcases blocks with _ | ⟨second, blocks⟩
    · cases block with
      | changed o oldLength n newLength => exact ⟨_, along, .done, Or.inr rfl⟩
      | same o n length =>
        obtain ⟨some, rfl, stop, agree⟩ := reads.same_eq first
        rw [along_nil_iff.mp rest, Prod.mk.injEq] at stop
        have whole : length = min length context + (length - min length context) := by omega
        rw [whole, agree_add_iff] at agree
        have shown := reads.along_same (by rw [context]; omega) agree.1
        refine ⟨_, .cons shown .nil, .gap agree.2 ?_, Or.inl rfl⟩
        have ends : ((o + min length context + (length - min length context),
            n + min length context + (length - min length context)) : Point) = (old.length, new.length) := by
          rw [Prod.mk.injEq]
          omega
        exact ends ▸ .done
    · obtain ⟨q, shown, behind, closes⟩ := ih rest
      have trimmed : trimEnd (block :: second :: blocks) = block :: trimEnd (second :: blocks) := by
        cases block <;> rfl
      rw [trimmed]
      refine ⟨q, .cons first shown, behind, ?_⟩
      obtain ⟨next, others, same, _⟩ := trimEnd_cons second blocks
      rw [same] at closes ⊢
      rwa [List.getLast?_cons_cons]

/-- The hunks of two lists of lines have everything between them in which the lists differ. -/
theorem ofLines_spread (reads : ReadsKept old new step)
    (along : Along step (0, 0) (Block.ofEdits (settle old.toArray new.toArray (script old new)))
      (old.length, new.length)) : Spread old new step (0, 0) (Hunk.ofLines old new) := by
  obtain ⟨gap, kept, started, opens⟩ := trimStart_along reads along
  obtain ⟨q, shown, behind, closes⟩ := trimEnd_along reads started
  refine .gap kept ?_
  simp only [Nat.zero_add]
  refine group_spread reads .nil shown ?_ closes behind
  -- Trimming the end leaves kept lines at the start, if they were there.
  rw [Prod.mk.injEq, and_self]
  refine opens.imp_left fun opened => ?_
  generalize trimStart _ = blocks at opened
  cases blocks with
  | nil => rfl
  | cons block blocks =>
    obtain ⟨first, rest, same, alike⟩ := trimEnd_cons block blocks
    rw [List.nil_append, same]
    exact alike.trans opened

end Grouping

end TextMigration.LineDiff
