import TextMigration.Pattern.Template

/-!
Templates that refer to no group. A reference is a brace or a character of a name behind an odd number of dollar
signs (`refersToGroups_iff`). Without one the expansion says the same at every match: it is the template with
each pair of dollar signs taken for one (`expand_unreferring`), and the template itself if it has no pair.
-/

namespace TextMigration.Pattern.Template

variable {template lead rest : Text} {c : Char}

/-- The template with each pair of dollar signs, from the left, taken for one. -/
def undoubled : Text → Text
  | [] => []
  | '$' :: '$' :: rest => '$' :: undoubled rest
  | c :: rest => c :: undoubled rest

/-- Pairs of dollar signs, and one that is left over, stand before a brace or a character of a name. -/
def HasReference (template : Text) : Prop :=
  ∃ lead pairs c rest, template = lead ++ (List.replicate (2 * pairs + 1) '$' ++ c :: rest) ∧
    lead.getLast? ≠ some '$' ∧ opensReference c = true

theorem refersToGroups_cons (plain : c ≠ '$') (rest : Text) :
    refersToGroups (c :: rest) = refersToGroups rest := by
  cases rest <;> simp [refersToGroups, plain]

theorem undoubled_cons (plain : c ≠ '$') (rest : Text) : undoubled (c :: rest) = c :: undoubled rest := by
  cases rest <;> simp [undoubled, plain]

section Reference

theorem getLast?_of_cons {d : Char} (apart : (c :: rest).getLast? ≠ some d) :
    (rest = [] → c ≠ d) ∧ rest.getLast? ≠ some d := by
  cases rest with
  | nil => exact ⟨fun _ same => apart (by simp [same]), by simp⟩
  | cons e rest => exact ⟨by simp, by simpa using apart⟩

-- What does not end in a dollar sign is scanned to its end, whatever comes behind it.
theorem refersToGroups_append (apart : lead.getLast? ≠ some '$') (rest : Text) :
    refersToGroups (lead ++ rest) = (refersToGroups lead || refersToGroups rest) := by
  induction lead using refersToGroups.induct with
  | case1 => rfl
  | case2 lead ih =>
    obtain ⟨_, behind⟩ := getLast?_of_cons (getLast?_of_cons apart).2
    simp only [List.cons_append, refersToGroups, ih behind]
  | case3 c lead other ih =>
    have behind := (getLast?_of_cons apart).2
    simp only [List.cons_append] at ih
    simp only [List.cons_append, refersToGroups, ih behind, Bool.or_assoc]
  | case4 c lead _ single ih =>
    have plain : c ≠ '$' := by
      cases lead with
      | nil => exact (getLast?_of_cons apart).1 rfl
      | cons d lead => exact fun same => single d lead same rfl
    rw [List.cons_append, refersToGroups_cons plain, refersToGroups_cons plain, ih (getLast?_of_cons apart).2]

theorem refersToGroups_run (opens : opensReference c = true) (pairs : Nat) (rest : Text) :
    refersToGroups (List.replicate (2 * pairs + 1) '$' ++ c :: rest) = true := by
  induction pairs with
  | zero =>
    have other : c ≠ '$' := by
      rintro rfl
      simp [opensReference, isNameChar] at opens
    simp [refersToGroups, other, opens]
  | succ pairs ih =>
    rw [show 2 * (pairs + 1) + 1 = 2 * pairs + 1 + 1 + 1 by omega, List.replicate_succ, List.replicate_succ]
    simpa only [List.cons_append, refersToGroups] using ih

theorem refersToGroups_iff : refersToGroups template = true ↔ HasReference template := by
  constructor
  · intro refers
    induction template using refersToGroups.induct with
    | case1 => simp [refersToGroups] at refers
    | case2 rest ih =>
      obtain ⟨lead, pairs, c, behind, rfl, apart, opens⟩ := ih refers
      cases lead with
      | nil => exact ⟨[], pairs + 1, c, behind, rfl, by simp, opens⟩
      | cons first lead =>
        exact ⟨'$' :: '$' :: first :: lead, pairs, c, behind, rfl, by simpa using apart, opens⟩
    | case3 c rest other ih =>
      simp only [refersToGroups, Bool.or_eq_true] at refers
      rcases refers with opens | later
      · exact ⟨[], 0, c, rest, rfl, by simp, opens⟩
      · obtain ⟨lead, pairs, d, behind, same, apart, opens⟩ := ih later
        cases lead with
        | nil =>
          rw [List.nil_append, List.replicate_succ, List.cons_append, List.cons.injEq] at same
          exact absurd same.1 other
        | cons first lead =>
          exact ⟨'$' :: first :: lead, pairs, d, behind, by rw [same]; rfl, by simpa using apart, opens⟩
    | case4 c rest _ single ih =>
      rcases rest with _ | ⟨d, rest⟩
      · by_cases dollar : c = '$' <;> simp [refersToGroups, dollar] at refers
      · have plain : c ≠ '$' := fun same => single d rest same rfl
        rw [refersToGroups_cons plain] at refers
        obtain ⟨lead, pairs, e, behind, same, apart, opens⟩ := ih refers
        refine ⟨c :: lead, pairs, e, behind, by rw [same]; rfl, ?_, opens⟩
        cases lead with
        | nil => simpa using plain
        | cons first lead => simpa using apart
  · rintro ⟨lead, pairs, c, rest, rfl, apart, opens⟩
    rw [refersToGroups_append apart, refersToGroups_run opens, Bool.or_true]

end Reference

section Expansion

-- A dollar sign that opens nothing stands for itself.
theorem reference_closed (unpaired : rest.head? ≠ some '$') (closed : rest.head?.any opensReference = false) :
    reference rest = (.char '$', 0) := by
  cases rest with
  | nil => rfl
  | cons c rest =>
    have other : c ≠ '$' := by simpa using unpaired
    have plain : opensReference c = false := closed
    simp only [opensReference, Bool.or_eq_false_iff, beq_eq_false_iff_ne] at plain
    simp [reference, other, plain.1, plain.2]

theorem expand_unreferring (fill : GroupRef → Text) (plain : refersToGroups template = false) :
    expand fill template = undoubled template := by
  rw [expand, parts]
  induction template using refersToGroups.induct with
  | case1 => rfl
  | case2 rest ih =>
    rw [refersToGroups] at plain
    rw [undoubled, ← ih plain]
    rfl
  | case3 c rest other ih =>
    simp only [refersToGroups, Bool.or_eq_false_iff] at plain
    obtain ⟨closed, later⟩ := plain
    have alone : reference (c :: rest) = (.char '$', 0) :=
      reference_closed (by simpa using other) closed
    rw [undoubled, ← ih later, partsFrom, if_pos rfl, alone]
    · rfl
    · intro behind _ same
      exact other (List.cons.inj same).1
  | case4 c rest _ single ih =>
    by_cases dollar : c = '$'
    · -- The last character, with nothing behind it to open.
      cases rest with
      | nil => rw [dollar]; rfl
      | cons d rest => exact absurd rfl (single d rest dollar)
    · rw [refersToGroups_cons dollar] at plain
      rw [undoubled_cons dollar, ← ih plain, partsFrom, if_neg dollar]
      rfl

theorem undoubled_unpaired (unpaired : ¬ ['$', '$'] <:+: template) : undoubled template = template := by
  induction template using undoubled.induct with
  | case1 => rfl
  | case2 rest ih => exact absurd ⟨[], rest, rfl⟩ unpaired
  | case3 c rest single ih =>
    rw [undoubled]
    · rw [ih fun inside => unpaired (inside.trans (List.suffix_cons c rest).isInfix)]
    · exact single

end Expansion

end TextMigration.Pattern.Template
