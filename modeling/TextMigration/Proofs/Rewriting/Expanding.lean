import Mathlib.Data.List.TakeWhile
import TextMigration.Proofs.Rewriting.Splice
import TextMigration.Proofs.Rewriting.Undoubling

/-!
What a template says at a match. `Expands` has the rules one by one, as a relation between a template and a text;
expanding gives the one text that they allow (`expands_iff`). The test for references reads a template by itself,
and in another way. Where it finds none, the rules leave nothing to a match but to say the template with each pair
of dollar signs taken for one: `unreferring_says_same`.
-/

namespace TextMigration.Pattern

def Part.said (fill : GroupRef → Text) : Part → Text
  | .char c => [c]
  | .group ref => fill ref

namespace Template

variable {fill : GroupRef → Text} {template name rest out : Text} {c : Char}

/-- A dollar sign before the text opens nothing: no dollar sign and no character of a name follows it, nor a brace
that is closed. -/
structure OpensNothing (rest : Text) : Prop where
  unpaired : rest.head? ≠ some '$'
  unnamed : rest.head?.any isNameChar = false
  unclosed : ∀ inner, rest = '\x7b' :: inner → '\x7d' ∉ inner

/-- What a template says when the groups of a match are filled in, rule by rule from the left. -/
inductive Expands (fill : GroupRef → Text) : Text → Text → Prop where
  | done : Expands fill [] []
  | char {c : Char} {rest out : Text} (plain : c ≠ '$') (behind : Expands fill rest out) :
    Expands fill (c :: rest) (c :: out)
  | pair {rest out : Text} (behind : Expands fill rest out) : Expands fill ('$' :: '$' :: rest) ('$' :: out)
  | named {name rest out : Text} (some : name ≠ []) (chars : ∀ c ∈ name, isNameChar c = true)
    (longest : rest.head?.any isNameChar = false) (behind : Expands fill rest out) :
    Expands fill ('$' :: (name ++ rest)) (fill (groupRef name) ++ out)
  | braced {name rest out : Text} (unclosed : '\x7d' ∉ name) (behind : Expands fill rest out) :
    Expands fill ('$' :: '\x7b' :: (name ++ '\x7d' :: rest)) (fill (groupRef name) ++ out)
  | alone {rest out : Text} (opens : OpensNothing rest) (behind : Expands fill rest out) :
    Expands fill ('$' :: rest) ('$' :: out)

section Reference

theorem isNameChar_dollar : isNameChar '$' = false := rfl

theorem isNameChar_brace : isNameChar '\x7b' = false := rfl

theorem reference_named (some : name ≠ []) (chars : ∀ c ∈ name, isNameChar c = true)
    (longest : rest.head?.any isNameChar = false) :
    reference (name ++ rest) = (.group (groupRef name), name.length) := by
  have taken : (name ++ rest).takeWhile isNameChar = name := by
    rw [List.takeWhile_append_of_pos chars]
    cases rest with
    | nil => simp
    | cons c rest =>
      have other : isNameChar c = false := longest
      simp [other]
  obtain ⟨first, others, rfl⟩ := List.exists_cons_of_ne_nil some
  have letter := chars first List.mem_cons_self
  rw [List.cons_append] at taken ⊢
  have undollared : first ≠ '$' := by
    rintro rfl
    simp [isNameChar_dollar] at letter
  have unbraced : first ≠ '\x7b' := by
    rintro rfl
    simp [isNameChar_brace] at letter
  simp only [reference]
  split
  · next same => exact absurd (List.cons.inj same).1 undollared
  · next same => exact absurd (List.cons.inj same).1 unbraced
  · simp [taken]

theorem reference_braced (closed : '\x7d' ∉ name) (rest : Text) :
    reference ('\x7b' :: (name ++ '\x7d' :: rest)) = (.group (groupRef name), name.length + 2) := by
  have taken : (name ++ '\x7d' :: rest).takeWhile (· != '\x7d') = name := by
    rw [List.takeWhile_append_of_pos fun c member => by
      simpa using fun same : c = '\x7d' => closed (same ▸ member)]
    simp
  simp [reference, taken]

theorem reference_alone (opens : OpensNothing rest) : reference rest = (.char '$', 0) := by
  cases rest with
  | nil => rfl
  | cons c rest =>
    have undollared : c ≠ '$' := by simpa using opens.unpaired
    by_cases braced : c = '\x7b'
    · subst braced
      have unclosed := opens.unclosed rest rfl
      have taken : rest.takeWhile (· != '\x7d') = rest :=
        List.takeWhile_eq_self_iff.mpr fun c member => by
          simpa using fun same : c = '\x7d' => unclosed (same ▸ member)
      simp [reference, taken]
    · have unnamed : isNameChar c = false := opens.unnamed
      simp [reference, undollared, braced, unnamed]

/-- A dollar sign is the first of a pair, begins a reference or opens nothing. -/
theorem dollar_cases (rest : Text) :
    (∃ behind, rest = '$' :: behind) ∨
    (∃ name behind, rest = name ++ behind ∧ name ≠ [] ∧ (∀ c ∈ name, isNameChar c = true) ∧
      behind.head?.any isNameChar = false) ∨
    (∃ name behind, rest = '\x7b' :: (name ++ '\x7d' :: behind) ∧ '\x7d' ∉ name) ∨
    OpensNothing rest := by
  by_cases paired : rest.head? = some '$'
  · obtain ⟨behind, same⟩ := List.head?_eq_some_iff.mp paired
    exact Or.inl ⟨behind, same⟩
  by_cases named : rest.head?.any isNameChar = true
  · refine Or.inr (Or.inl ⟨rest.takeWhile isNameChar, rest.dropWhile isNameChar,
      List.takeWhile_append_dropWhile.symm, ?_, fun c member => List.mem_takeWhile_imp member, ?_⟩)
    · cases rest with
      | nil => simp at named
      | cons c rest =>
        have letter : isNameChar c = true := named
        simp [letter]
    · have stops := List.head?_dropWhile_not isNameChar rest
      cases behind : (rest.dropWhile isNameChar).head? with
      | none => rfl
      | some c => simpa [behind] using stops
  by_cases closed : ∃ inner, rest = '\x7b' :: inner ∧ '\x7d' ∈ inner
  · obtain ⟨inner, same, member⟩ := closed
    obtain ⟨name, behind, split, before⟩ := List.eq_append_cons_of_mem member
    exact Or.inr (Or.inr (Or.inl ⟨name, behind, by rw [same, split], before⟩))
  · refine Or.inr (Or.inr (Or.inr ⟨paired, by simpa using named, ?_⟩))
    intro inner same member
    exact closed ⟨inner, same, member⟩

end Reference

section Expansion

theorem partsFrom_eq (skip : Nat) (text : Text) : partsFrom skip text = parts (text.drop skip) := by
  induction text generalizing skip with
  | nil => cases skip <;> rfl
  | cons c rest ih =>
    cases skip with
    | zero => rfl
    | succ skip => exact ih skip

theorem expand_cons (plain : c ≠ '$') (rest : Text) : expand fill (c :: rest) = c :: expand fill rest := by
  simp [expand, parts, partsFrom, plain]

theorem expand_dollar (fill : GroupRef → Text) (rest : Text) :
    expand fill ('$' :: rest) =
      (reference rest).1.said fill ++ expand fill (rest.drop (reference rest).2) := by
  rw [expand, parts, partsFrom, if_pos rfl]
  simp only [partsFrom_eq, List.flatMap_cons]
  cases (reference rest).1 <;> rfl

theorem Expands.expand_eq (expands : Expands fill template out) : expand fill template = out := by
  induction expands with
  | done => rfl
  | char plain _ ih => rw [expand_cons plain, ih]
  | pair _ ih =>
    rw [expand_dollar, ← ih]
    rfl
  | named some chars longest _ ih =>
    rw [expand_dollar, reference_named some chars longest, List.drop_left, ih]
    rfl
  | @braced name rest out unclosed _ ih =>
    have behind : ('\x7b' :: (name ++ '\x7d' :: rest)).drop (name.length + 2) = rest := by simp
    rw [expand_dollar, reference_braced unclosed, behind, ih]
    rfl
  | alone opens _ ih =>
    rw [expand_dollar, reference_alone opens, List.drop_zero, ih]
    rfl

-- The induction is on the length, since a rule may leave any shorter end of the template.
theorem exists_expands (fill : GroupRef → Text) (template : Text) : ∃ out, Expands fill template out := by
  induction length : template.length using Nat.strongRecOn generalizing template with
  | ind _ ih =>
    cases template with
    | nil => exact ⟨[], .done⟩
    | cons c rest =>
      have shorter (behind : Text) (less : behind.length ≤ rest.length) : ∃ out, Expands fill behind out :=
        ih behind.length (by rw [← length, List.length_cons]; omega) behind rfl
      by_cases dollar : c = '$'
      · rw [dollar]
        rcases dollar_cases rest with ⟨behind, rfl⟩ | ⟨name, behind, rfl, some, chars, longest⟩ |
          ⟨name, behind, rfl, unclosed⟩ | opens
        · obtain ⟨out, said⟩ := shorter behind (by simp)
          exact ⟨_, .pair said⟩
        · obtain ⟨out, said⟩ := shorter behind (by simp)
          exact ⟨_, .named some chars longest said⟩
        · obtain ⟨out, said⟩ := shorter behind (by simp; omega)
          exact ⟨_, .braced unclosed said⟩
        · obtain ⟨out, said⟩ := shorter rest (Nat.le_refl _)
          exact ⟨_, .alone opens said⟩
      · obtain ⟨out, said⟩ := shorter rest (Nat.le_refl _)
        exact ⟨_, .char dollar said⟩

theorem expands_iff : Expands fill template out ↔ expand fill template = out := by
  constructor
  · exact Expands.expand_eq
  · rintro rfl
    obtain ⟨out, said⟩ := exists_expands fill template
    rwa [said.expand_eq]

end Expansion

end Template

end Pattern

namespace Rule

open Pattern.Template (Expands expand expands_iff expand_unreferring refersToGroups undoubled undoubled_unpaired)

/-- A template that seems to refer to no group says the same at every match of every pattern, which is the template
with each pair of dollar signs, from the left, taken for one; and if it has no such pair, it says itself. So a rule
with a pattern puts this one text at every hit in every document. -/
theorem unreferring_says_same {template : Text} (plain : refersToGroups template = false) :
    (∀ (p : Pattern) (found : Pattern.Match),
      expand (found.fill p.names) template = undoubled template ∧
        ∀ out, Expands (found.fill p.names) template out ↔ out = undoubled template) ∧
    (∀ (rule : Rule) (p : Pattern), rule.matcher = .pattern p → rule.replacement = .text template →
      ∀ text, ∀ hit ∈ (rule.matcher.cut text).hits, rule.insertion hit = undoubled template) ∧
    (¬ ['$', '$'] <:+: template → undoubled template = template) := by
  have same : ∀ fill, expand fill template = undoubled template := fun fill => expand_unreferring fill plain
  refine ⟨fun p found => ⟨same _, fun out => ?_⟩, ?_, undoubled_unpaired⟩
  · rw [expands_iff, same]
    exact eq_comm
  · intro rule p matcher replacement text hit member
    rw [matcher] at member
    obtain ⟨found, here, _⟩ := Matcher.found_of_pattern hit member
    have inserted : rule.insertion hit = expand (found.fill p.names) template := by
      simp [insertion, matcher, replacement, here]
    rw [inserted, same]

theorem unreferring_says_price :
    refersToGroups ['$', '$', '5', '$', 'é'] = false ∧
      expand (Pattern.Match.fill [] ⟨['U', 'S', 'D'], []⟩) ['$', '$', '5', '$', 'é'] = ['$', '5', '$', 'é'] := by
  have plain : refersToGroups ['$', '$', '5', '$', 'é'] = false := by decide
  exact ⟨plain, ((unreferring_says_same plain).1 ⟨[], #[], []⟩ ⟨['U', 'S', 'D'], []⟩).1⟩

end Rule

end TextMigration
