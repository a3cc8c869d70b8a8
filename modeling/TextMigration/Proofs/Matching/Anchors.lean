import TextMigration.Proofs.Matching.Cuts
import TextMigration.Proofs.Text.Separate

/-!
Literal matchers: a needle, or the two anchors of a block. Such a matcher has a span exactly where its
anchors occur in order (`first?_eq_none_iff`), every span begins with the first anchor, and no gap has that
anchor in it. A piece that is separate from it, put behind such a gap, moves no span (`cut_beside`).
-/

namespace TextMigration

namespace Cuts

def behind (lead : Text) : Cuts → Cuts
  | ⟨[], tail⟩ => ⟨[], lead ++ tail⟩
  | ⟨hit :: hits, tail⟩ => ⟨{ hit with gap := lead ++ hit.gap } :: hits, tail⟩

def filled (body : Text) (cuts : Cuts) : Text :=
  cuts.hits.flatMap (fun hit => hit.gap ++ body) ++ cuts.tail

@[simp] theorem length_behind (lead : Text) (cuts : Cuts) :
    (cuts.behind lead).hits.length = cuts.hits.length := by
  rcases cuts with ⟨_ | ⟨hit, hits⟩, tail⟩ <;> rfl

@[simp] theorem filled_behind (body lead : Text) (cuts : Cuts) :
    (cuts.behind lead).filled body = lead ++ cuts.filled body := by
  rcases cuts with ⟨_ | ⟨hit, hits⟩, tail⟩
  · rfl
  · simp [behind, filled]

@[simp] theorem join_cons (hit : Hit) (hits : List Hit) (tail : Text) :
    join ⟨hit :: hits, tail⟩ = hit.gap ++ hit.span ++ join ⟨hits, tail⟩ := by
  simp [join]

@[simp] theorem filled_cons (body : Text) (hit : Hit) (hits : List Hit) (tail : Text) :
    filled body ⟨hit :: hits, tail⟩ = hit.gap ++ body ++ filled body ⟨hits, tail⟩ := by
  simp [filled]

end Cuts

namespace Matcher

def anchors : Matcher → List Text
  | exact needle => [needle]
  | delimited start stop => [start, stop]
  | pattern _ => []

def isLiteral : Matcher → Bool
  | pattern _ => false
  | _ => true

variable {matcher : Matcher} {before : Option Char} {text rest target : Text} {hit : Hit}

theorem literalTarget?_eq_head? (matcher : Matcher) : matcher.literalTarget? = matcher.anchors.head? := by
  cases matcher <;> rfl

-- Only a pattern looks at the character before the text.
theorem first?_before (literal : matcher.isLiteral = true) (before other : Option Char) :
    matcher.first? before text = matcher.first? other text := by
  cases matcher with
  | exact => rfl
  | delimited => rfl
  | pattern => simp [isLiteral] at literal

theorem first?_delimited {start stop : Text} (nonblank : (delimited start stop).isBlank = false) :
    (delimited start stop).first? before text =
      (Text.cut? start text).bind fun (gap, inner) =>
        (Text.cut? stop inner).map fun (body, rest) => (⟨gap, start ++ body ++ stop, none⟩, rest) := by
  have both : (start.isEmpty || stop.isEmpty) = false := nonblank
  simp only [first?, both, Bool.false_eq_true, if_false, Option.map_eq_bind]
  rfl

theorem first?_exact {needle : Text} (nonblank : (exact needle).isBlank = false) :
    (exact needle).first? before text =
      (Text.cut? needle text).map fun (gap, rest) => (⟨gap, needle, none⟩, rest) := by
  have some : needle.isEmpty = false := nonblank
  simp [first?, some]

theorem first?_eq_none_iff (literal : matcher.isLiteral = true) (nonblank : matcher.isBlank = false) :
    matcher.first? before text = none ↔ ¬ Text.InOrder matcher.anchors text := by
  cases matcher with
  | exact needle =>
    rw [first?_exact nonblank, Option.map_eq_none_iff, Text.cut?_eq_none_iff]
    exact not_congr Text.inOrder_singleton.symm
  | delimited start stop =>
    rw [first?_delimited nonblank]
    have pair : Text.InOrder (delimited start stop).anchors text ↔ _ := Text.inOrder_pair
    rw [pair]
    cases opening : Text.cut? start text with
    | none =>
      have absent := Text.cut?_eq_none_iff.mp opening
      simp only [Option.bind_none, true_iff]
      rintro ⟨lead, rest, same, _⟩
      exact absent ⟨lead, rest, same.symm⟩
    | some cut =>
      obtain ⟨gap, inner⟩ := cut
      simp only [Option.bind_some, Option.map_eq_none_iff, Text.cut?_eq_none_iff, not_iff_not]
      constructor
      · intro inside
        exact ⟨gap, inner, Text.cut?_pieces opening, inside⟩
      · rintro ⟨lead, rest, same, inside⟩
        exact inside.trans (Text.cut?_suffix opening same).isInfix
  | pattern => simp [isLiteral] at literal

/-- The first anchor begins the span, and does not occur before it. -/
theorem first?_target (targets : matcher.literalTarget? = some target)
    (found : matcher.first? before text = some (hit, rest)) :
    target <+: hit.span ∧ ¬ target <:+: hit.gap := by
  cases matcher with
  | exact needle =>
    rw [← Option.some.inj targets]
    simp only [first?] at found
    split at found
    · simp at found
    · next nonblank =>
      obtain ⟨⟨gap, tail⟩, cut, made⟩ := Option.map_eq_some_iff.mp found
      simp only [Prod.mk.injEq] at made
      obtain ⟨rfl, rfl⟩ := made
      exact ⟨List.prefix_rfl, Text.cut?_gap (by simpa using nonblank) cut⟩
  | delimited start stop =>
    rw [← Option.some.inj targets]
    simp only [first?] at found
    split at found
    · simp at found
    · next nonblank =>
      simp only [Bool.or_eq_true, List.isEmpty_iff, not_or] at nonblank
      simp only [Option.bind_eq_bind, Option.bind_eq_some_iff, Option.pure_def, Option.some.injEq,
        Prod.mk.injEq, Prod.exists] at found
      obtain ⟨gap, inner, opening, body, tail, closing, rfl, rfl⟩ := found
      exact ⟨⟨body ++ stop, by simp⟩, Text.cut?_gap nonblank.1 opening⟩
  | pattern => simp [literalTarget?] at targets

theorem hits_eq_nil_iff (literal : matcher.isLiteral = true) (nonblank : matcher.isBlank = false) :
    (matcher.cut text).hits = [] ↔ ¬ Text.InOrder matcher.anchors text := by
  rw [hits_eq_nil_iff_first?, first?_eq_none_iff literal nonblank]

theorem countFrom_eq_length_hits {needle : Text} (nonblank : (exact needle).isBlank = false) (fuel : Nat)
    (before : Option Char) (text : Text) :
    Text.countFrom needle fuel text = ((exact needle).cutFrom fuel before text).hits.length := by
  induction fuel generalizing before text with
  | zero => rfl
  | succ fuel ih =>
    rw [Text.countFrom, cutFrom, first?_exact nonblank]
    cases Text.cut? needle text with
    | none => rfl
    | some cut =>
      obtain ⟨gap, rest⟩ := cut
      simp [ih needle.getLast? rest]

/-- Counting a needle and looking for it agree, also on the empty needle. -/
theorem count_eq_length_hits (needle text : Text) :
    text.count needle = ((exact needle).cut text).hits.length := by
  rw [Text.count]
  split
  · next empty =>
    have blank : (exact needle).first? none text = none := by simp [first?, empty]
    rw [hits_eq_nil_iff_first?.mpr blank]
    rfl
  · next nonempty =>
    have nonblank : (exact needle).isBlank = false := by simpa [isBlank] using nonempty
    exact countFrom_eq_length_hits nonblank text.length none text

-- A piece put behind a gap shifts the first span and does nothing else to it.
theorem first?_beside {gap piece : Text} (targets : matcher.literalTarget? = some target)
    (apart : Text.Separate target piece) (absent : ¬ target <:+: gap) :
    matcher.first? before (gap ++ piece ++ text) =
      (matcher.first? before text).map fun (hit, rest) =>
        ({ hit with gap := gap ++ piece ++ hit.gap }, rest) := by
  cases matcher with
  | exact needle =>
    rw [← Option.some.inj targets] at apart absent
    have nonblank : (exact needle).isBlank = false := by
      simpa [isBlank] using apart.left_nonempty
    rw [first?_exact nonblank, first?_exact nonblank, Text.cut?_beside apart absent]
    cases Text.cut? needle text <;> rfl
  | delimited start stop =>
    rw [← Option.some.inj targets] at apart absent
    by_cases empty : stop = []
    · simp [first?, empty]
    · have nonblank : (delimited start stop).isBlank = false := by
        simpa [isBlank] using ⟨apart.left_nonempty, empty⟩
      rw [first?_delimited nonblank, first?_delimited nonblank, Text.cut?_beside apart absent]
      cases Text.cut? start text with
      | none => rfl
      | some cut =>
        obtain ⟨lead, inner⟩ := cut
        simp only [Option.map_some, Option.bind_some]
        cases Text.cut? stop inner <;> rfl
  | pattern => simp [literalTarget?] at targets

theorem isLiteral_of_target (targets : matcher.literalTarget? = some target) :
    matcher.isLiteral = true := by
  cases matcher with
  | exact => rfl
  | delimited => rfl
  | pattern => simp [literalTarget?] at targets

theorem target_of_isLiteral (literal : matcher.isLiteral = true) :
    ∃ target, matcher.literalTarget? = some target := by
  cases matcher with
  | exact needle => exact ⟨needle, rfl⟩
  | delimited start _ => exact ⟨start, rfl⟩
  | pattern => simp [isLiteral] at literal

theorem span_target (targets : matcher.literalTarget? = some target) (text : Text) :
    ∀ hit ∈ (matcher.cut text).hits, target <+: hit.span :=
  (cut_cutting matcher text).forall_hits fun _ _ _ _ found => (first?_target targets found).1

theorem Cutting.from_any {cuts : Cuts} (literal : matcher.isLiteral = true)
    (cutting : Cutting matcher before text cuts) (other : Option Char) :
    Cutting matcher other text cuts := by
  cases cutting with
  | done absent =>
    rw [first?_before literal before other] at absent
    exact .done absent
  | next found others =>
    rw [first?_before literal before other] at found
    exact .next found others

-- The first hit, and the others as the cuts of the rest.
theorem cut_cons {hits : List Hit} {tail : Text} (targets : matcher.literalTarget? = some target)
    (cut : matcher.cut text = ⟨hit :: hits, tail⟩) :
    target <+: hit.span ∧ ¬ target <:+: hit.gap ∧ matcher.cut (Cuts.join ⟨hits, tail⟩) = ⟨hits, tail⟩ := by
  have cutting := cut_cutting matcher text
  rw [cut] at cutting
  cases cutting with
  | next found others =>
    obtain ⟨opens, absent⟩ := first?_target targets found
    refine ⟨opens, absent, ?_⟩
    rw [others.join]
    exact cut_eq_of_cutting (others.from_any (isLiteral_of_target targets) none)

theorem cut_beside {gap piece : Text} (targets : matcher.literalTarget? = some target)
    (apart : Text.Separate target piece) (absent : ¬ target <:+: gap) :
    matcher.cut (gap ++ piece ++ text) = (matcher.cut text).behind (gap ++ piece) := by
  apply cut_eq_of_cutting
  have shifted : matcher.first? none (gap ++ piece ++ text) = _ := first?_beside targets apart absent
  generalize made : matcher.cut text = cuts
  have cutting := cut_cutting matcher text
  rw [made] at cutting
  cases cutting with
  | done none =>
    rw [none] at shifted
    exact .done shifted
  | next found others =>
    rw [found] at shifted
    exact .next shifted others

end Matcher

end TextMigration
