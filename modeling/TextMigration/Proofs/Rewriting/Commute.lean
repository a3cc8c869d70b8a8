import TextMigration.Proofs.Matching.Layout
import TextMigration.Proofs.Rewriting.Rest

/-!
Two rules that have nothing to do with each other. On a text that is laid out for the needles of both, each
rule puts its replacement in the place of its own pieces (`apply_laid`), and the pieces of the other one stay
where they are. So the order of the two rules does not matter, to the text or to what they find.
-/

namespace TextMigration

namespace Cuts

def swap (needle body : Text) : Nat → List Hit → List Hit
  | 0, hits => hits
  | _ + 1, [] => []
  | count + 1, hit :: hits =>
    if hit.span = needle then ⟨hit.gap, body, none⟩ :: swap needle body count hits
    else hit :: swap needle body (count + 1) hits

variable {needle other body inserted tail : Text} {hits : List Hit} {hit : Hit}

theorem mem_swap {count : Nat} (member : hit ∈ swap needle body count hits) :
    hit ∈ hits ∨ ∃ old ∈ hits, old.span = needle ∧ hit = ⟨old.gap, body, none⟩ := by
  induction hits generalizing count with
  | nil => cases count <;> simp [swap] at member
  | cons first hits ih =>
    have further {count : Nat} (later : hit ∈ swap needle body count hits) :
        hit ∈ first :: hits ∨ ∃ old ∈ first :: hits, old.span = needle ∧ hit = ⟨old.gap, body, none⟩ := by
      rcases ih later with kept | ⟨old, inside, own, made⟩
      · exact Or.inl (List.mem_cons_of_mem first kept)
      · exact Or.inr ⟨old, List.mem_cons_of_mem first inside, own, made⟩
    cases count with
    | zero => exact Or.inl member
    | succ count =>
      rw [swap] at member
      split at member
      · next own =>
        rcases List.mem_cons.mp member with same | later
        · exact Or.inr ⟨first, List.mem_cons_self, own, same⟩
        · exact further later
      · rcases List.mem_cons.mp member with same | later
        · exact Or.inl (same ▸ List.mem_cons_self)
        · exact further later

-- Pieces of one needle are not counted for the other, nor is what takes their place.
theorem tally_swap (unlike : other ≠ needle) (fresh : body ≠ other) (count : Nat) (hits : List Hit) :
    tally other (swap needle body count hits) = tally other hits := by
  induction hits generalizing count with
  | nil => cases count <;> rfl
  | cons hit hits ih =>
    cases count with
    | zero => rfl
    | succ count =>
      rw [swap]
      split
      · next own =>
        have foreign : hit.span ≠ other := fun same => unlike (same.symm.trans own)
        simpa [tally, foreign, fresh] using ih count
      · simpa [tally, List.countP_cons] using ih (count + 1)

theorem swap_comm (unlike : needle ≠ other) (fresh : body ≠ other) (new : inserted ≠ needle)
    (count number : Nat) (hits : List Hit) :
    swap other inserted number (swap needle body count hits) =
      swap needle body count (swap other inserted number hits) := by
  induction hits generalizing count number with
  | nil => cases count <;> cases number <;> rfl
  | cons hit hits ih =>
    cases count with
    | zero => simp [swap]
    | succ count =>
      cases number with
      | zero => simp [swap]
      | succ number =>
        by_cases own : hit.span = needle
        · simp [swap, own, unlike, fresh, ih]
        · by_cases its : hit.span = other
          · simp [swap, its, unlike.symm, new, ih]
          · simp [swap, own, its, ih]

/-- A text that is laid out for a needle stays so when the pieces of another one are swapped. -/
theorem IsLaidOut.swap (laid : IsLaidOut other ⟨hits, tail⟩) (unlike : other ≠ needle)
    (apart : Text.Separate other body) (count : Nat) :
    IsLaidOut other ⟨Cuts.swap needle body count hits, tail⟩ := by
  refine ⟨?_, laid.behind⟩
  intro hit member
  rcases mem_swap member with kept | ⟨old, inside, own, made⟩
  · exact laid.faces hit kept
  · rw [made]
    cases laid.faces old inside with
    | own same => exact absurd (same.symm.trans own) unlike
    | foreign _ absent => exact .foreign apart absent

end Cuts

def Application.account (result : Application) : Status × Nat × Nat :=
  (result.status, result.occurrences, result.found)

namespace Rule

variable {rule : Rule} {needle tail : Text} {hits : List Hit}

theorem splice_behind (count : Nat) (lead : Text) (cuts : Cuts) :
    rule.splice count (cuts.behind lead) = lead ++ rule.splice count cuts := by
  rcases cuts with ⟨_ | ⟨hit, hits⟩, tail⟩
  · simp [Cuts.behind]
  · cases count with
    | zero => simp [Cuts.behind]
    | succ count =>
      have same : rule.edited { hit with gap := lead ++ hit.gap } = rule.edited hit := rfl
      simp [Cuts.behind, same]

-- The rule takes its own pieces; the other ones are part of the gaps.
theorem splice_owned (plain : rule.IsPlain) (count : Nat) :
    rule.splice count (Cuts.owned needle tail hits) =
      Cuts.join ⟨Cuts.swap needle rule.replacement.body count hits, tail⟩ := by
  induction hits generalizing count with
  | nil => cases count <;> simp [Cuts.owned, Cuts.swap, Cuts.join]
  | cons hit hits ih =>
    rw [Cuts.owned]
    by_cases own : hit.span = needle
    · have rest := ih 0
      rw [splice_zero, Cuts.join] at rest
      cases count with
      | zero => simp [own, Cuts.swap, Cuts.join, rest]
      | succ count => simp [own, Cuts.swap, plain.edited, ih]
    · have unchanged := ih count
      cases count with
      | zero => simp [own, Cuts.swap, splice_behind, unchanged]
      | succ count => simp [own, Cuts.swap, splice_behind, unchanged]

theorem take_zero (rule : Rule) : rule.take 0 = 0 := by
  cases scope : rule.scope <;> simp [take, scope]

theorem apply_laid (plain : rule.IsPlain) (exact : rule.matcher = .exact needle) (nonempty : needle ≠ [])
    (laid : Cuts.IsLaidOut needle ⟨hits, tail⟩) :
    let found := Cuts.tally needle hits
    (rule.apply (Cuts.join ⟨hits, tail⟩)).1 =
      Cuts.join ⟨Cuts.swap needle rule.replacement.body (rule.take found) hits, tail⟩ ∧
    (rule.apply (Cuts.join ⟨hits, tail⟩)).2.account =
      (if found = 0 then .noMatch else .applied, rule.take found, found) := by
  intro found
  have cut : rule.matcher.cut (Cuts.join ⟨hits, tail⟩) = Cuts.owned needle tail hits := by
    rw [exact, Matcher.cut_join nonempty laid]
  have length : (rule.matcher.cut (Cuts.join ⟨hits, tail⟩)).hits.length = found := by
    rw [cut, Cuts.length_owned]
  constructor
  · rw [apply_text (plain.isOpen _), length, cut, splice_owned plain]
  · by_cases none : found = 0
    · have missing := List.length_eq_zero_iff.mp (length.trans none)
      rw [apply_of_missing (plain.isOpen _) missing, if_pos none, none, take_zero]
      rfl
    · have some : (rule.matcher.cut (Cuts.join ⟨hits, tail⟩)).hits ≠ [] := by
        intro missing
        rw [missing, List.length_nil] at length
        exact none length.symm
      rw [apply_of_found (plain.isOpen _) some, if_neg none, length]
      rfl

/-- Rules whose needles are separate from each other and from what the other rule inserts can change places:
the text is the same in the end, and each finds and takes the same number of spans. -/
theorem apply_comm_of_separate {one two : Rule} {needle other : Text} (first : one.IsPlain)
    (second : two.IsPlain) (here : one.matcher = .exact needle) (there : two.matcher = .exact other)
    (apart : Text.Separate needle other) (kept : Text.Separate needle two.replacement.body)
    (keeps : Text.Separate other one.replacement.body) (text : Text) :
    (two.apply (one.apply text).1).1 = (one.apply (two.apply text).1).1 ∧
      (one.apply (two.apply text).1).2.account = (one.apply text).2.account ∧
      (two.apply (one.apply text).1).2.account = (two.apply text).2.account := by
  obtain ⟨⟨hits, tail⟩, joined, laid, laid'⟩ := Cuts.exists_layout apart text
  have unlike {left right : Text} (apart : Text.Separate left right) : left ≠ right :=
    fun same => apart.left_outside (same ▸ List.infix_rfl)
  have fresh : one.replacement.body ≠ other := (unlike keeps).symm
  have new : two.replacement.body ≠ needle := (unlike kept).symm
  obtain ⟨oneText, oneTold⟩ := apply_laid first here apart.left_nonempty laid
  obtain ⟨twoText, twoTold⟩ := apply_laid second there apart.right_nonempty laid'
  -- After one rule the text is still laid out for the other, which has as many pieces as before.
  obtain ⟨twoLater, twoSame⟩ := apply_laid second there apart.right_nonempty
    (laid'.swap (unlike apart).symm keeps (one.take (Cuts.tally needle hits)))
  obtain ⟨oneLater, oneSame⟩ := apply_laid first here apart.left_nonempty
    (laid.swap (unlike apart) kept (two.take (Cuts.tally other hits)))
  rw [Cuts.tally_swap (unlike apart).symm fresh] at twoLater twoSame
  rw [Cuts.tally_swap (unlike apart) new] at oneLater oneSame
  rw [← joined, oneText, twoText, oneTold, twoTold, oneLater, oneSame, twoLater, twoSame]
  refine ⟨?_, rfl, rfl⟩
  rw [Cuts.swap_comm (unlike apart) fresh new]

-- The first needle overlaps itself, and only one of its spans is taken.
theorem apply_comm_of_letters :
    let one : Rule := ⟨['o', 'n', 'e'], .exact ['a', 'a'], .text ['x'], .first, .replace, none, true⟩
    let two : Rule := ⟨['t', 'w', 'o'], .exact ['b'], .text ['y'], .all, .replace, none, true⟩
    let text : Text := ['a', 'a', 'a', 'b', 'a', 'a', 'b']
    Text.Separate ['a', 'a'] ['b'] ∧ Text.Separate ['a', 'a'] ['y'] ∧ Text.Separate ['b'] ['x'] ∧
      (two.apply (one.apply text).1).1 = (one.apply (two.apply text).1).1 ∧
      (two.apply (one.apply text).1).1 = ['x', 'a', 'y', 'a', 'a', 'y'] ∧
      (one.apply (two.apply text).1).2.account = (.applied, 1, 2) := by
  intro one two text
  have apart : Text.Separate ['a', 'a'] ['b'] := by decide
  have kept : Text.Separate ['a', 'a'] ['y'] := by decide
  have keeps : Text.Separate ['b'] ['x'] := by decide
  have first : one.IsPlain := ⟨rfl, rfl, rfl⟩
  have second : two.IsPlain := ⟨rfl, rfl, rfl⟩
  obtain ⟨same, told, _⟩ := apply_comm_of_separate first second rfl rfl apart kept keeps text
  refine ⟨apart, kept, keeps, same, by decide, ?_⟩
  rw [told]
  decide

end Rule

end TextMigration
