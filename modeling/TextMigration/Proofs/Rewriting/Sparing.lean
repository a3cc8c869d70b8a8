import TextMigration.Proofs.Rewriting.Rest
import TextMigration.Proofs.Text.Spare

/-!
Rules that make nothing for another rule to find. A rule is verbatim if it puts the same text in the place of
every span, whatever it took there. If that text spares some needles, then needles that occur in order after
the rule has run occurred in order before it (`Spares.inOrder_of_apply`).
-/

namespace TextMigration

namespace Pattern.Template

-- Without a dollar sign there is nothing to fill in.
theorem expand_plain (fill : GroupRef → Text) {template : Text} (plain : '$' ∉ template) :
    expand fill template = template := by
  rw [expand, parts]
  induction template with
  | nil => rfl
  | cons c rest ih =>
    rw [List.mem_cons, not_or] at plain
    rw [partsFrom, if_neg (Ne.symm plain.1), List.flatMap_cons, ih plain.2]
    rfl

end Pattern.Template

namespace Rule

variable {rule : Rule} {parts : List Text} {text : Text} {cuts : Cuts}

inductive InsertsBody (rule : Rule) : Prop where
  | fragment (block : Fragment) (replacement : rule.replacement = .fragment block)
  | literal (literal : rule.matcher.isLiteral = true)
  | plain (plain : '$' ∉ rule.replacement.body)

theorem InsertsBody.insertion (inserts : rule.InsertsBody) (hit : Hit) :
    rule.insertion hit = rule.replacement.body := by
  rw [Rule.insertion]
  split
  · next p template found matcher replacement _ =>
    cases inserts with
    | fragment block other => simp [replacement] at other
    | literal literal => simp [matcher, Matcher.isLiteral] at literal
    | plain plain =>
      rw [replacement] at plain ⊢
      exact Pattern.Template.expand_plain _ plain
  · rfl

structure IsVerbatim (rule : Rule) : Prop where
  replaces : rule.placement = .replace
  constant : rule.matcher.isLiteral = true ∨ '$' ∉ rule.replacement.body

theorem IsVerbatim.edited (verbatim : rule.IsVerbatim) (hit : Hit) :
    rule.edited hit = rule.replacement.body := by
  have inserts : rule.InsertsBody := by
    rcases verbatim.constant with literal | plain
    · exact .literal literal
    · exact .plain plain
  rw [Rule.edited, verbatim.replaces]
  exact inserts.insertion hit

/-- What the rule writes makes no new occurrence of any of the needles. -/
structure Spares (rule : Rule) (parts : List Text) : Prop where
  verbatim : rule.IsVerbatim
  spares : ∀ part ∈ parts, Text.Spares part (rule.matcher.literalTarget?.getD []) rule.replacement.body

instance (rule : Rule) (parts : List Text) : Decidable (rule.Spares parts) :=
  decidable_of_iff ((rule.placement = .replace ∧
      (rule.matcher.isLiteral = true ∨ '$' ∉ rule.replacement.body)) ∧
      ∀ part ∈ parts, Text.Spares part (rule.matcher.literalTarget?.getD []) rule.replacement.body)
    ⟨fun ⟨⟨a, b⟩, c⟩ => ⟨⟨a, b⟩, c⟩, fun ⟨⟨a, b⟩, c⟩ => ⟨⟨a, b⟩, c⟩⟩

namespace Spares

theorem inOrder_of_splice (spares : rule.Spares parts)
    (begins : ∀ hit ∈ cuts.hits, rule.matcher.literalTarget?.getD [] <+: hit.span) {count : Nat}
    (inside : Text.InOrder parts (rule.splice count cuts)) : Text.InOrder parts cuts.join := by
  obtain ⟨hits, tail⟩ := cuts
  induction hits generalizing count parts with
  | nil =>
    rw [splice_nil] at inside
    exact inside
  | cons hit hits ih =>
    cases count with
    | zero =>
      rw [splice_zero] at inside
      exact inside
    | succ count =>
      rw [splice_cons, spares.verbatim.edited] at inside
      obtain ⟨early, late, split, before, behind⟩ :=
        Text.InOrder.spared spares.spares (begins hit List.mem_cons_self) inside
      have later : rule.Spares late :=
        ⟨spares.verbatim, fun part member => spares.spares part (split ▸ List.mem_append_right early member)⟩
      have others := ih later (fun other member => begins other (List.mem_cons_of_mem hit member)) behind
      rw [Cuts.join_cons, split]
      exact before.append others

theorem inOrder_of_apply (spares : rule.Spares parts) (inside : Text.InOrder parts (rule.apply text).1) :
    Text.InOrder parts text := by
  cases opened : rule.isOpen text with
  | false =>
    obtain ⟨gate, _, _, skipped⟩ := apply_of_closed opened
    rw [skipped] at inside
    exact inside
  | true =>
    have begins : ∀ hit ∈ (rule.matcher.cut text).hits, rule.matcher.literalTarget?.getD [] <+: hit.span := by
      cases targets : rule.matcher.literalTarget? with
      | none => exact fun hit _ => List.nil_prefix
      | some target => exact Matcher.span_target targets text
    rw [apply_text opened] at inside
    have before := spares.inOrder_of_splice begins inside
    rwa [Matcher.join_cut] at before

end Spares

end Rule

end TextMigration
