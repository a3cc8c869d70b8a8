import TextMigration.Proofs.Packing.Greedy
import TextMigration.Proofs.Text.Places

/-!
What a literal matcher takes, as ranges of a text. Its pieces are the ranges that spell what it looks for; of
those the next span is the first to begin and the first to end (`first?_earliest`), also where pieces overlap,
so the ranges of a text are taken greedily (`ranges_greedy`).
-/

namespace TextMigration.Matcher

variable {matcher : Matcher} {before : Option Char} {source text lead rest : Text} {hit : Hit}

def ranges (matcher : Matcher) (text : Text) : List (Nat × Nat) := rangesFrom 0 (matcher.cut text).hits

/-- What a span can read: the needle, or a block with anything between its anchors. -/
def Spells : Matcher → Text → Prop
  | exact needle, span => span = needle
  | delimited start stop, span => ∃ body, span = start ++ body ++ stop
  | pattern _, _ => False

def IsPiece (matcher : Matcher) (text : Text) (range : Nat × Nat) : Prop :=
  ∃ span, text.slice? range.1 range.2 = some span ∧ matcher.Spells span

theorem Spells.inOrder {span : Text} (spells : matcher.Spells span) : Text.InOrder matcher.anchors span := by
  cases matcher with
  | exact needle => exact Text.inOrder_singleton.mpr (spells ▸ List.infix_rfl)
  | delimited start stop =>
    obtain ⟨body, rfl⟩ := spells
    refine Text.inOrder_pair.mpr ⟨[], body ++ stop, by simp, ?_⟩
    exact ⟨body, [], by simp⟩
  | pattern => exact absurd spells id

-- Of two pieces of a text with what stands before them, the one is no longer than the other.
theorem prefixes_of_length_le {gap piece lead other tail : Text} (one : text = gap ++ piece ++ rest)
    (two : text = lead ++ other ++ tail) (early : gap.length ≤ lead.length)
    (short : gap.length + piece.length ≤ lead.length + other.length) :
    gap <+: lead ∧ gap ++ piece <+: lead ++ other := by
  have first : gap ++ piece <+: text := ⟨rest, one.symm⟩
  have second : lead ++ other <+: text := ⟨tail, two.symm⟩
  constructor
  · exact List.prefix_of_prefix_length_le ((List.prefix_append _ _).trans first)
      ((List.prefix_append _ _).trans second) early
  · exact List.prefix_of_prefix_length_le first second (by simpa using short)

theorem first?_earliest (literal : matcher.isLiteral = true)
    (found : matcher.first? before text = some (hit, rest)) :
    matcher.Spells hit.span ∧ ∀ lead span tail, text = lead ++ span ++ tail → matcher.Spells span →
      hit.gap <+: lead ∧ hit.gap ++ hit.span <+: lead ++ span := by
  have begins := (first?_pieces found).1
  cases matcher with
  | exact needle =>
    have nonblank : (exact needle).isBlank = false := by
      by_contra blank
      simp_all [first?, isBlank]
    rw [first?_exact nonblank] at found
    obtain ⟨⟨gap, tail⟩, cut, made⟩ := Option.map_eq_some_iff.mp found
    simp only [Prod.mk.injEq] at made
    obtain ⟨rfl, rfl⟩ := made
    refine ⟨rfl, ?_⟩
    intro lead span tail same spells
    have early := Text.cut?_earliest cut (spells ▸ same)
    rw [spells] at same ⊢
    exact prefixes_of_length_le begins same early (Nat.add_le_add_right early _)
  | delimited start stop =>
    have nonblank : (delimited start stop).isBlank = false := by
      by_contra blank
      simp_all [first?, isBlank]
    rw [first?_delimited nonblank] at found
    obtain ⟨⟨gap, inner⟩, opening, found⟩ := Option.bind_eq_some_iff.mp found
    obtain ⟨⟨body, tail⟩, closing, made⟩ := Option.map_eq_some_iff.mp found
    simp only [Prod.mk.injEq] at made
    obtain ⟨rfl, rfl⟩ := made
    refine ⟨⟨body, rfl⟩, ?_⟩
    rintro lead _ behind same ⟨other, rfl⟩
    have begun : text = lead ++ start ++ (other ++ stop ++ behind) := by rw [same]; simp
    have early := Text.cut?_earliest opening begun
    -- The stop of the other block stands behind the start that was found, too.
    obtain ⟨more, inners⟩ := Text.cut?_suffix opening begun
    have ended : inner = (more ++ other) ++ stop ++ behind := by rw [← inners]; simp
    have soon := Text.cut?_earliest closing ended
    refine prefixes_of_length_le begins same early ?_
    have length := congrArg List.length (begun.symm.trans (Text.cut?_pieces opening))
    rw [← inners] at length
    simp only [List.length_append] at length soon ⊢
    omega
  | pattern => simp [isLiteral] at literal

/-- The spans of what stands behind `lead` are taken greedily from there on. -/
theorem Cutting.greedy {cuts : Cuts} (literal : matcher.isLiteral = true)
    (nonblank : matcher.isBlank = false) (cutting : Cutting matcher before text cuts)
    (same : source = lead ++ text) :
    Greedy (matcher.IsPiece source) lead.byteLength (rangesFrom lead.byteLength cuts.hits) := by
  induction cutting generalizing lead with
  | done absent =>
    refine .done ?_
    rintro piece ⟨span, found, spells⟩ ahead
    rw [same] at found
    obtain ⟨front, rest, pieces, _⟩ := Text.exists_split_behind found ahead
    refine (first?_eq_none_iff literal nonblank).mp absent ?_
    rw [pieces, ← List.append_nil matcher.anchors]
    exact (spells.inOrder.behind front).append trivial
  | @next before text rest hit cuts found _ ih =>
    obtain ⟨pieces, _⟩ := first?_pieces found
    obtain ⟨spells, earliest⟩ := first?_earliest literal found
    have whole : source = lead ++ hit.gap ++ hit.span ++ rest := by
      rw [same, pieces]
      simp
    have others := ih whole
    simp only [Text.byteLength_append] at others
    refine .next ⟨hit.span, ?_, spells⟩ (Nat.le_add_right _ _) ?_ others
    · exact Text.slice?_eq_some_iff.mpr ⟨lead ++ hit.gap, rest, whole, by simp, by simp⟩
    · rintro piece ⟨span, found, spells⟩ ahead
      rw [same] at found
      obtain ⟨front, tail, split, begins, ends⟩ := Text.exists_split_behind found ahead
      obtain ⟨sooner, shorter⟩ := earliest front span tail split spells
      have start := Text.byteLength_le_of_prefix sooner
      have stop := Text.byteLength_le_of_prefix shorter
      simp only [Text.byteLength_append] at stop begins ends
      rw [begins, ends]
      constructor <;> omega

theorem ranges_greedy (literal : matcher.isLiteral = true) (nonblank : matcher.isBlank = false)
    (text : Text) : Greedy (matcher.IsPiece text) 0 (matcher.ranges text) := by
  have front : text = [] ++ text := rfl
  exact (cut_cutting matcher text).greedy literal nonblank front

theorem ranges_ascending (matcher : Matcher) (text : Text) :
    Ascending 0 text.byteLength (matcher.ranges text) := by
  have ascending := rangesFrom_ascending (span_nonempty matcher text) [] (matcher.cut text).tail
  have whole : [] ++ Cuts.join ⟨(matcher.cut text).hits, (matcher.cut text).tail⟩ = text := join_cut matcher text
  rwa [whole] at ascending

theorem length_rangesFrom (cursor : Nat) (hits : List Hit) : (rangesFrom cursor hits).length = hits.length := by
  induction hits generalizing cursor with
  | nil => rfl
  | cons hit hits ih => simp [rangesFrom, ih]

theorem length_ranges (matcher : Matcher) (text : Text) :
    (matcher.ranges text).length = (matcher.cut text).hits.length :=
  length_rangesFrom 0 _

theorem isMatch_iff_exists_piece (literal : matcher.isLiteral = true) (nonblank : matcher.isBlank = false) :
    matcher.isMatch text = true ↔ ∃ range, matcher.IsPiece text range := by
  have greedy := ranges_greedy literal nonblank text
  have taken : matcher.isMatch text = true ↔ matcher.ranges text ≠ [] := by
    rw [isMatch, Bool.not_eq_true', List.isEmpty_eq_false_iff, Ne, ← List.length_eq_zero_iff, ← length_ranges,
      List.length_eq_zero_iff]
  rw [taken]
  constructor
  · intro found
    obtain ⟨range, member⟩ := List.exists_mem_of_ne_nil _ found
    exact ⟨range, greedy.own range member⟩
  · rintro ⟨range, fits⟩
    obtain ⟨other, member, _⟩ := greedy.ends_inside fits (Nat.zero_le _)
    exact List.ne_nil_of_mem member

end TextMigration.Matcher
