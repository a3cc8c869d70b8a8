import TextMigration.Proofs.Rewriting.Rest
import TextMigration.Proofs.Text.Slice

/-!
How the parts of a result hang together. Whatever the matcher, the gate, the scope and the placement, the status,
the counts and the hints of a result tell the same story about the text that the rule ran on and the text that it
left: `apply_coherent`. The story is checked for each of the three ways in which a rule ends.
-/

namespace TextMigration

theorem Text.length_le_byteLength (text : Text) : text.length ≤ text.byteLength := by
  induction text with
  | nil => exact Nat.le_refl 0
  | cons c text ih =>
    have positive := Char.utf8Size_pos c
    rw [List.length_cons, byteLength_cons]
    omega

-- Every hit takes a character at least of the text that the cuts are of.
theorem Cuts.length_hits_le {cuts : Cuts} (nonempty : ∀ hit ∈ cuts.hits, hit.span ≠ []) :
    cuts.hits.length ≤ cuts.join.length := by
  obtain ⟨hits, tail⟩ := cuts
  induction hits with
  | nil => exact Nat.zero_le _
  | cons hit hits ih =>
    have others : hits.length ≤ (Cuts.join ⟨hits, tail⟩).length :=
      ih fun other member => nonempty other (List.mem_cons_of_mem hit member)
    have positive := List.length_pos_iff.mpr (nonempty hit List.mem_cons_self)
    rw [join_cons]
    simp only [List.length_append, List.length_cons]
    omega

theorem Matcher.length_hits_le (matcher : Matcher) (text : Text) :
    (matcher.cut text).hits.length ≤ text.length := by
  have bound := Cuts.length_hits_le (span_nonempty matcher text)
  rwa [join_cut] at bound

def Precondition.Fails (text : Text) : Precondition → Prop
  | contains needle => ¬ needle <:+: text
  | lacks needle => needle <:+: text

theorem Precondition.holds_eq_false_iff {gate : Precondition} {text : Text} :
    gate.holds text = false ↔ gate.Fails text := by
  rw [← Bool.not_eq_true]
  cases gate with
  | contains needle => rw [holds_contains_iff, Fails]
  | lacks needle => rw [holds_lacks_iff, not_not, Fails]

namespace Rule

/-- The result tells what the rule did to the text, from which the next text came. -/
structure Coherent (rule : Rule) (text next : Text) (result : Application) : Prop where
  matched : result.matched = true ↔ result.status = .applied
  occurrences : 0 < result.occurrences ↔ result.status = .applied
  found : 0 < result.found ↔ result.status = .applied
  within : result.occurrences ≤ result.found
  all : rule.scope = .all → result.occurrences = result.found
  first : rule.scope = .first → result.status = .applied → result.occurrences = 1
  fits : result.found ≤ text.length ∧ text.length ≤ text.byteLength
  unchanged : result.status ≠ .applied → next = text
  alreadyApplied : result.alreadyApplied = true ↔
    result.status = .noMatch ∧ rule.replacement.body ≠ [] ∧ rule.replacement.body <:+: text
  nearMiss : result.nearMiss ≠ none → result.status = .noMatch ∧ ∀ p, rule.matcher ≠ .pattern p
  skipped : (∃ reason satisfied, result.status = .skipped reason satisfied) ↔
    ∃ gate, rule.precondition = some gate ∧ gate.Fails text
  satisfied : ∀ reason satisfied, result.status = .skipped reason satisfied →
    (satisfied = true ↔ ∃ needle, rule.precondition = some (.lacks needle))
  missed : result.isRequiredMiss = true ↔
    rule.required = true ∧ result.status ≠ .applied ∧
      ¬ ∃ needle, rule.precondition = some (.lacks needle) ∧ needle <:+: text

variable {rule : Rule} {gate : Precondition} {text : Text}

theorem isOpen_iff : rule.isOpen text = true ↔ ¬ ∃ gate, rule.precondition = some gate ∧ gate.Fails text := by
  rw [isOpen, Option.all_eq_true]
  constructor
  · rintro holds ⟨gate, here, fails⟩
    rw [← Precondition.holds_eq_false_iff, holds gate here] at fails
    simp at fails
  · intro none gate here
    rw [← Bool.not_eq_false, Precondition.holds_eq_false_iff]
    exact fun fails => none ⟨gate, here, fails⟩

-- An open gate guards nothing that is there.
theorem unguarded_of_open (opened : rule.isOpen text = true) :
    ¬ ∃ needle, rule.precondition = some (.lacks needle) ∧ needle <:+: text := by
  rintro ⟨needle, gate, present⟩
  exact isOpen_iff.mp opened ⟨.lacks needle, gate, present⟩

theorem take_le (rule : Rule) (found : Nat) : rule.take found ≤ found := by
  rw [take]
  cases rule.scope with
  | all => exact Nat.le_refl found
  | first => exact Nat.min_le_right 1 found

theorem coherent_of_skipped (here : rule.precondition = some gate) (fails : gate.Fails text) :
    rule.Coherent text text { rule.blankResult with status := .skipped gate.display gate.isGuard } where
  matched := by simp [blankResult]
  occurrences := by simp [blankResult]
  found := by simp [blankResult]
  within := Nat.le_refl 0
  all _ := rfl
  first _ applied := by simp at applied
  fits := ⟨Nat.zero_le _, text.length_le_byteLength⟩
  unchanged _ := rfl
  alreadyApplied := by simp [blankResult]
  nearMiss some := absurd rfl some
  skipped := ⟨fun _ => ⟨gate, here, fails⟩, fun _ => ⟨_, _, rfl⟩⟩
  satisfied := by
    rintro _ _ ⟨⟩
    rw [here]
    cases gate <;> simp [Precondition.isGuard]
  missed := by
    cases gate with
    | contains needle => simp [Application.isRequiredMiss, blankResult, Precondition.isGuard, here]
    | lacks needle =>
      have present : needle <:+: text := fails
      simp [Application.isRequiredMiss, Precondition.isGuard, here, present]

theorem coherent_of_missing (opened : rule.isOpen text = true) :
    rule.Coherent text text { rule.blankResult with
      alreadyApplied := rule.replacementPresent text
      nearMiss := rule.matcher.literalTarget?.bind (NearMiss.nearest text) } where
  matched := by simp [blankResult]
  occurrences := by simp [blankResult]
  found := by simp [blankResult]
  within := Nat.le_refl 0
  all _ := rfl
  first _ applied := by simp [blankResult] at applied
  fits := ⟨Nat.zero_le _, text.length_le_byteLength⟩
  unchanged _ := rfl
  alreadyApplied := by simp [blankResult, replacementPresent_iff]
  nearMiss some := by
    refine ⟨rfl, ?_⟩
    intro p looks
    simp [looks, Matcher.literalTarget?] at some
  skipped := by simp [blankResult, isOpen_iff.mp opened]
  satisfied := by simp [blankResult]
  missed := by simp [Application.isRequiredMiss, blankResult, unguarded_of_open opened]

theorem coherent_of_taken (opened : rule.isOpen text = true) (found : (rule.matcher.cut text).hits ≠ [])
    (next : Text) :
    rule.Coherent text next { rule.blankResult with
      status := .applied
      matched := true
      occurrences := rule.take (rule.matcher.cut text).hits.length
      found := (rule.matcher.cut text).hits.length } where
  matched := by simp
  occurrences := by simp [take_pos (List.length_pos_iff.mpr found)]
  found := by simp [List.length_pos_iff.mpr found]
  within := rule.take_le _
  all whole := by simp [take, whole]
  first single _ := by
    have some := List.length_pos_iff.mpr found
    simp only [take, single]
    omega
  fits := ⟨rule.matcher.length_hits_le text, text.length_le_byteLength⟩
  unchanged idle := absurd rfl idle
  alreadyApplied := by simp [blankResult]
  nearMiss some := absurd rfl some
  skipped := by simp [isOpen_iff.mp opened]
  satisfied := by simp
  missed := by simp [Application.isRequiredMiss]

theorem apply_coherent (rule : Rule) (text : Text) :
    rule.Coherent text (rule.apply text).1 (rule.apply text).2 := by
  rcases rule.apply_cases text with ⟨gate, here, fails, _, skipped⟩ | ⟨opened, _, missed⟩ | ⟨opened, found, taken⟩
  · rw [skipped]
    exact coherent_of_skipped here (Precondition.holds_eq_false_iff.mp fails)
  · rw [missed]
    exact coherent_of_missing opened
  · rw [taken]
    exact coherent_of_taken opened found _

end Rule

end TextMigration
