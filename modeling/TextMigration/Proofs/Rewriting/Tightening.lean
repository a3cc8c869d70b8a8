import TextMigration.Proofs.Rewriting.Sparing
import TextMigration.Proofs.Search.Loose

/-!
Rules that normalize: what reads like two words with filler between them gives way to the two words alone.
When the words begin with a mark that is nowhere else in them, what is written cannot be part of another
such piece, whatever stands beside it, so that the rule leaves none: `Tightens.clear_apply`.
-/

namespace TextMigration

namespace Pattern.Loose

variable {loose : Loose} {piece : Text}

/-- The character that the first word begins with is nowhere else in the words, and is no filler. -/
def isMarked (loose : Loose) : Bool :=
  loose.front.head?.any fun mark =>
    decide (mark ∉ loose.front.tail) && decide (mark ∉ loose.back) && !loose.filler.has mark.toNat

theorem separate_tight (stops : loose.stops = true) (marked : loose.isMarked = true)
    (reads : loose.Reads piece) : Text.Separate piece loose.tight := by
  obtain ⟨run, nonempty, all, rfl⟩ := reads
  obtain ⟨c, run, rfl⟩ := List.exists_cons_of_ne_nil nonempty
  obtain ⟨mark, opens, rare⟩ := (Option.any_eq_true _ _).mp marked
  simp only [Bool.and_eq_true, Bool.not_eq_true', decide_eq_true_eq] at rare
  obtain ⟨⟨fresh, other⟩, outside⟩ := rare
  obtain ⟨d, more, back, stop⟩ := exists_cons_of_stops stops
  obtain ⟨word, front⟩ := List.head?_eq_some_iff.mp opens
  rw [front, List.tail_cons] at fresh
  have unfilled : mark ∉ c :: run := by
    intro member
    rw [all mark member] at outside
    simp at outside
  rw [tight, front]
  show Text.Separate (mark :: (word ++ c :: run ++ loose.back)) (mark :: (word ++ loose.back))
  refine Text.Separate.of_marked ?_ ?_ ?_ ?_
  · simp only [List.mem_append, not_or]
    exact ⟨⟨fresh, unfilled⟩, other⟩
  · simp only [List.mem_append, not_or]
    exact ⟨fresh, other⟩
  -- The piece is longer than the two words.
  · intro begins
    have short := begins.length_le
    simp only [List.length_cons, List.length_append] at short
    omega
  -- Where the piece has its first filler, the second word begins with something else.
  · intro begins
    rw [List.cons_prefix_cons, List.append_assoc, List.prefix_append_right_inj, List.cons_append, back,
      List.cons_prefix_cons] at begins
    rw [begins.2.1, all c List.mem_cons_self] at stop
    simp at stop

end Pattern.Loose

namespace Matcher

variable {p : Pattern} {language : Text → Prop} {before : Option Char} {text body : Text} {cuts : Cuts}

def pattern? : Matcher → Option Pattern
  | pattern p => some p
  | _ => none

theorem pattern?_eq_some_iff {matcher : Matcher} : matcher.pattern? = some p ↔ matcher = pattern p := by
  cases matcher <;> simp [pattern?]

theorem hits_pattern_eq_nil_iff (recognizes : Pattern.Recognizes p.program language) :
    ((pattern p).cut text).hits = [] ↔ ∀ piece, language piece → ¬ piece <:+: text := by
  rw [hits_eq_nil_iff_first?, first?, Option.map_eq_none_iff, Pattern.first?_eq_none_iff recognizes]

/-- What is put in the place of the pieces of a language, and is separate from them, makes no new one. -/
theorem Cutting.filled_outside (recognizes : Pattern.Recognizes p.program language)
    (apart : ∀ piece, language piece → Text.Separate piece body)
    (cutting : Cutting (pattern p) before text cuts) :
    ∀ piece, language piece → ¬ piece <:+: cuts.filled body := by
  induction cutting with
  | done absent =>
    exact (Pattern.first?_eq_none_iff recognizes).mp (Option.map_eq_none_iff.mp absent)
  | next found _ ih =>
    obtain ⟨⟨gap, found, rest⟩, first, made⟩ := Option.map_eq_some_iff.mp found
    simp only [Prod.mk.injEq] at made
    obtain ⟨rfl, rfl⟩ := made
    intro piece member inside
    rw [Cuts.filled_cons] at inside
    obtain ⟨lead, tail, split⟩ := inside
    rcases (apart piece member).beside split.symm with ⟨more, gaps, _⟩ | ⟨more, behind, _⟩
    · exact (Pattern.first?_recognized recognizes first).2 piece member ⟨lead, more, gaps.symm⟩
    · exact ih piece member ⟨more, tail, behind.symm⟩

end Matcher

namespace Rule

variable {rule : Rule} {loose : Pattern.Loose} {text : Text}

-- A verbatim rule that takes every span puts its replacement in the place of each.
theorem IsVerbatim.apply_all (verbatim : rule.IsVerbatim) (opened : rule.isOpen text = true)
    (all : rule.scope = .all) : (rule.apply text).1 = (rule.matcher.cut text).filled rule.replacement.body := by
  rw [apply_text opened]
  simp only [splice, take, all, List.take_length, List.drop_length, Cuts.filled, verbatim.edited]
  rfl

/-- The rule looks for two words with filler between them and takes the filler out. -/
structure Tightens (rule : Rule) (loose : Pattern.Loose) : Prop where
  ungated : rule.precondition = none
  replaces : rule.placement = .replace
  all : rule.scope = .all
  code : ∃ p ∈ rule.matcher.pattern?, Pattern.TakesLoose p.program loose
  body : rule.replacement.body = loose.tight
  plain : '$' ∉ loose.tight
  marked : loose.isMarked = true

instance (rule : Rule) (loose : Pattern.Loose) : Decidable (rule.Tightens loose) :=
  decidable_of_iff (rule.precondition = none ∧ rule.placement = .replace ∧ rule.scope = .all ∧
      (∃ p ∈ rule.matcher.pattern?, Pattern.TakesLoose p.program loose) ∧
      rule.replacement.body = loose.tight ∧ '$' ∉ loose.tight ∧ loose.isMarked = true)
    ⟨fun ⟨a, b, c, d, e, f, g⟩ => ⟨a, b, c, d, e, f, g⟩, fun ⟨a, b, c, d, e, f, g⟩ => ⟨a, b, c, d, e, f, g⟩⟩

namespace Tightens

theorem recognizes {p : Pattern} (tightens : rule.Tightens loose) (looks : rule.matcher = .pattern p) :
    Pattern.Recognizes p.program loose.Reads := by
  obtain ⟨other, found, code⟩ := tightens.code
  rw [looks, Matcher.pattern?, Option.mem_some_iff] at found
  rw [found]
  exact code.recognizes

theorem hits_eq_nil_iff (tightens : rule.Tightens loose) :
    (rule.matcher.cut text).hits = [] ↔ ∀ piece, loose.Reads piece → ¬ piece <:+: text := by
  obtain ⟨p, found, _⟩ := tightens.code
  have looks : rule.matcher = .pattern p := Matcher.pattern?_eq_some_iff.mp found
  rw [looks]
  exact Matcher.hits_pattern_eq_nil_iff (tightens.recognizes looks)

theorem clear_apply (tightens : rule.Tightens loose) (text : Text) :
    ∀ piece, loose.Reads piece → ¬ piece <:+: (rule.apply text).1 := by
  obtain ⟨p, found, code⟩ := tightens.code
  have looks : rule.matcher = .pattern p := Matcher.pattern?_eq_some_iff.mp found
  have opened : rule.isOpen text = true := by simp [isOpen, tightens.ungated]
  have plain : '$' ∉ rule.replacement.body := tightens.body ▸ tightens.plain
  have verbatim : rule.IsVerbatim := ⟨tightens.replaces, Or.inr plain⟩
  rw [verbatim.apply_all opened tightens.all, looks, tightens.body]
  exact (Matcher.cut_cutting (.pattern p) text).filled_outside (tightens.recognizes looks)
    fun piece reads => Pattern.Loose.separate_tight code.stops tightens.marked reads

end Tightens

end Rule

end TextMigration
