import TextMigration.Proofs.Rewriting.Applying
import TextMigration.Proofs.Text.Slice

/-!
Rewriting by places. A writer with a cursor copies a text and rewrites ranges of it, counted in bytes; every
piece that it copies is a slice, and it fails where a slice does. On the ranges of the hits that a rule takes
it never fails and writes what `Rule.apply` gives, for every rule and every text: `apply_rewrites`.
-/

namespace TextMigration

def Placement.around (inserted span : Text) : Placement → Text
  | .replace => inserted
  | .before => inserted ++ span
  | .after => span ++ inserted

def rangesFrom : Nat → List Hit → List (Nat × Nat)
  | _, [] => []
  | cursor, hit :: hits =>
    let start := cursor + hit.gap.byteLength
    let stop := start + hit.span.byteLength
    (start, stop) :: rangesFrom stop hits

def Ascending : Nat → Nat → List (Nat × Nat) → Prop
  | low, high, [] => low ≤ high
  | low, high, (start, stop) :: rest => low ≤ start ∧ start < stop ∧ Ascending stop high rest

/-- The source from the cursor on with each range rewritten to what the placement makes of it. -/
def writeFrom (placement : Placement) (source : Text) : Nat → List ((Nat × Nat) × Text) → Option Text
  | cursor, [] => source.slice? cursor source.byteLength
  | cursor, ((start, stop), inserted) :: rest => do
    let span ← source.slice? start stop
    let kept ← source.slice? cursor start
    let written ← writeFrom placement source stop rest
    return kept ++ placement.around inserted span ++ written

/-- The ranges of blocks from the cursor on. Each anchor is looked for in what a slice leaves. -/
def blocksFrom (start stop source : Text) : Nat → Nat → Option (List (Nat × Nat))
  | 0, _ => some []
  | fuel + 1, cursor => do
    let ahead ← source.slice? cursor source.byteLength
    match Text.cut? start ahead with
    | none => return []
    | some (gap, _) =>
      let opening := cursor + gap.byteLength
      let inside := opening + start.byteLength
      let ahead ← source.slice? inside source.byteLength
      match Text.cut? stop ahead with
      | none => return []
      | some (body, _) =>
        let closing := inside + body.byteLength + stop.byteLength
        let others ← blocksFrom start stop source fuel closing
        return (opening, closing) :: others

section Places

variable {source lead tail : Text} {hits : List Hit}

theorem slice?_rest (same : source = lead ++ tail) :
    source.slice? lead.byteLength source.byteLength = some tail :=
  Text.slice?_eq_some_iff.mpr ⟨lead, [], by simpa using same, rfl, by simp [same]⟩

theorem rangesFrom_ascending (nonempty : ∀ hit ∈ hits, hit.span ≠ []) (lead tail : Text) :
    Ascending lead.byteLength (lead ++ Cuts.join ⟨hits, tail⟩).byteLength
      (rangesFrom lead.byteLength hits) := by
  induction hits generalizing lead with
  | nil => simp [rangesFrom, Ascending]
  | cons hit hits ih =>
    have positive := Text.byteLength_pos (nonempty hit List.mem_cons_self)
    have others := ih (fun other member => nonempty other (List.mem_cons_of_mem hit member))
      (lead ++ hit.gap ++ hit.span)
    rw [Cuts.join_cons, ← List.append_assoc, ← List.append_assoc]
    simp only [rangesFrom, Ascending, Text.byteLength_append] at others ⊢
    exact ⟨by omega, by omega, others⟩

-- The text before the first gap is what the cursor counts, so each step moves a hit into it.
theorem slice?_ranges (same : source = lead ++ Cuts.join ⟨hits, tail⟩) :
    ∀ place ∈ (rangesFrom lead.byteLength hits).zip hits,
      source.slice? place.1.1 place.1.2 = some place.2.span := by
  induction hits generalizing lead with
  | nil =>
    intro place member
    simp [rangesFrom] at member
  | cons hit hits ih =>
    rw [Cuts.join_cons, ← List.append_assoc, ← List.append_assoc] at same
    have others := ih same
    simp only [Text.byteLength_append] at others
    intro place member
    rcases List.mem_cons.mp member with here | later
    · rw [here]
      exact Text.slice?_eq_some_iff.mpr ⟨lead ++ hit.gap, Cuts.join ⟨hits, tail⟩, same, by simp, by simp⟩
    · exact others place later

theorem writeFrom_ranges (placement : Placement) (inserted : Hit → Text)
    (same : source = lead ++ Cuts.join ⟨hits, tail⟩) :
    writeFrom placement source lead.byteLength
        ((rangesFrom lead.byteLength hits).zip (hits.map inserted)) =
      some (hits.flatMap (fun hit => hit.gap ++ placement.around (inserted hit) hit.span) ++ tail) := by
  induction hits generalizing lead with
  | nil => exact slice?_rest same
  | cons hit hits ih =>
    rw [Cuts.join_cons, ← List.append_assoc, ← List.append_assoc] at same
    have others := ih same
    have span : source.slice? (lead.byteLength + hit.gap.byteLength)
        (lead.byteLength + hit.gap.byteLength + hit.span.byteLength) = some hit.span :=
      Text.slice?_eq_some_iff.mpr ⟨lead ++ hit.gap, Cuts.join ⟨hits, tail⟩, same, by simp, by simp⟩
    have kept : source.slice? lead.byteLength (lead.byteLength + hit.gap.byteLength) = some hit.gap :=
      Text.slice?_eq_some_iff.mpr
        ⟨lead, hit.span ++ Cuts.join ⟨hits, tail⟩, by rw [same]; simp, rfl, rfl⟩
    simp only [Text.byteLength_append] at others
    simp only [rangesFrom, List.map_cons, List.zip_cons_cons, writeFrom, span, kept, others,
      Option.bind_eq_bind, Option.bind_some, Option.pure_def, List.flatMap_cons, List.append_assoc]

theorem blocksFrom_ranges {start stop : Text} (nonblank : (Matcher.delimited start stop).isBlank = false)
    (fuel : Nat) (before : Option Char) {text : Text} (same : source = lead ++ text) :
    blocksFrom start stop source fuel lead.byteLength =
      some (rangesFrom lead.byteLength ((Matcher.delimited start stop).cutFrom fuel before text).hits) := by
  induction fuel generalizing lead text before with
  | zero => rfl
  | succ fuel ih =>
    rw [blocksFrom, Matcher.cutFrom, Matcher.first?_delimited nonblank, slice?_rest same]
    cases opening : Text.cut? start text with
    | none => simp [opening, rangesFrom]
    | some cut =>
      obtain ⟨gap, inner⟩ := cut
      have texts := Text.cut?_pieces opening
      have inside : source.slice? (lead.byteLength + gap.byteLength + start.byteLength) source.byteLength =
          some inner := by
        have ahead : source = (lead ++ gap ++ start) ++ inner := by rw [same, texts]; simp
        simpa [Nat.add_assoc] using slice?_rest ahead
      cases closing : Text.cut? stop inner with
      | none => simp [opening, inside, closing, rangesFrom]
      | some cut =>
        obtain ⟨body, rest⟩ := cut
        have inners := Text.cut?_pieces closing
        have ahead : source = lead ++ gap ++ (start ++ body ++ stop) ++ rest := by
          rw [same, texts, inners]
          simp
        have others := ih (start ++ body ++ stop).getLast? ahead
        simp only [Text.byteLength_append, ← Nat.add_assoc] at others
        simp only [opening, inside, closing, others, rangesFrom, Option.bind_eq_bind, Option.bind_some,
          Option.map_some, Option.pure_def, Text.byteLength_append, ← Nat.add_assoc]

end Places

namespace Rule

def taken (rule : Rule) (hits : List Hit) : List Hit :=
  match rule.scope with
  | .all => hits
  | .first => hits.take 1

/-- What a rule puts at a hit: a text in the place of a pattern is a template, to be filled in from the
match that was found there; any other replacement goes there as it is. -/
inductive Inserts (rule : Rule) (hit : Hit) : Text → Prop where
  | verbatim (literal : ∀ p template, rule.matcher = .pattern p → rule.replacement ≠ .text template) :
    Inserts rule hit rule.replacement.body
  | expanded {p : Pattern} {template : Text} {found : Pattern.Match}
    (matcher : rule.matcher = .pattern p) (replacement : rule.replacement = .text template)
    (here : hit.found = some found) (whole : found.text = hit.span) :
    Inserts rule hit (Pattern.Template.expand (found.fill p.names) template)

structure Rewrites (rule : Rule) (text next : Text) (hits : List Hit) : Prop where
  ascending : Ascending 0 text.byteLength (rangesFrom 0 hits)
  spans : ∀ place ∈ (rangesFrom 0 hits).zip hits, text.slice? place.1.1 place.1.2 = some place.2.span
  inserts : ∀ hit ∈ hits, rule.Inserts hit (rule.insertion hit)
  pieces : ∃ tail, text = (rule.taken hits).flatMap (fun hit => hit.gap ++ hit.span) ++ tail ∧
    next = (rule.taken hits).flatMap
      (fun hit => hit.gap ++ rule.placement.around (rule.insertion hit) hit.span) ++ tail
  written : writeFrom rule.placement text 0
    ((rangesFrom 0 (rule.taken hits)).zip ((rule.taken hits).map rule.insertion)) = some next

variable {rule : Rule} {text : Text}

theorem edited_eq_around (rule : Rule) (hit : Hit) :
    rule.edited hit = rule.placement.around (rule.insertion hit) hit.span := by
  rw [edited]
  cases rule.placement <;> rfl

theorem take_hits (rule : Rule) (hits : List Hit) : hits.take (rule.take hits.length) = rule.taken hits := by
  rw [take, taken]
  cases rule.scope with
  | all => exact List.take_length
  | first => cases hits <;> simp

theorem insertion_inserts (rule : Rule) (text : Text) :
    ∀ hit ∈ (rule.matcher.cut text).hits, rule.Inserts hit (rule.insertion hit) := by
  intro hit member
  by_cases expands : ∃ p template, rule.matcher = .pattern p ∧ rule.replacement = .text template
  · obtain ⟨p, template, matcher, replacement⟩ := expands
    rw [matcher] at member
    obtain ⟨found, here, whole⟩ := Matcher.found_of_pattern hit member
    have inserted : rule.insertion hit = Pattern.Template.expand (found.fill p.names) template := by
      simp [insertion, matcher, replacement, here]
    rw [inserted]
    exact .expanded matcher replacement here whole
  · have inserted : rule.insertion hit = rule.replacement.body := by
      rw [insertion]
      split
      · next p template _ matcher replacement _ => exact absurd ⟨p, template, matcher, replacement⟩ expands
      · rfl
    rw [inserted]
    exact .verbatim fun p template matcher replacement => expands ⟨p, template, matcher, replacement⟩

theorem splice_rewrites (rule : Rule) (text : Text) :
    rule.Rewrites text (rule.splice (rule.take (rule.matcher.cut text).hits.length) (rule.matcher.cut text))
      (rule.matcher.cut text).hits := by
  have nonempty := Matcher.span_nonempty rule.matcher text
  have inserts := insertion_inserts rule text
  have whole := (Matcher.join_cut rule.matcher text).symm
  generalize rule.matcher.cut text = cuts at nonempty inserts whole ⊢
  obtain ⟨hits, tail⟩ := cuts
  -- The hits that are not taken go with the tail.
  let kept := Cuts.join ⟨hits.drop (rule.take hits.length), tail⟩
  have front : text = [] ++ Cuts.join ⟨hits, tail⟩ := whole
  have split : text = [] ++ Cuts.join ⟨rule.taken hits, kept⟩ := by
    rw [whole, ← take_hits]
    simp only [Cuts.join, kept, List.nil_append]
    rw [← List.append_assoc, ← List.flatMap_append, List.take_append_drop]
  have spliced : rule.splice (rule.take hits.length) ⟨hits, tail⟩ =
      (rule.taken hits).flatMap
        (fun hit => hit.gap ++ rule.placement.around (rule.insertion hit) hit.span) ++ kept := by
    simp only [splice, take_hits, edited_eq_around, kept]
  exact {
    ascending := by
      have ranges := rangesFrom_ascending nonempty [] tail
      rwa [List.nil_append, ← whole] at ranges
    spans := slice?_ranges front
    inserts := inserts
    pieces := ⟨kept, split, spliced⟩
    written := by
      have written := writeFrom_ranges rule.placement rule.insertion split
      rwa [← spliced] at written
  }

/-- For every rule and every text: looking for blocks and rewriting the spans takes no slice that is not
there, and the next text is the text with exactly the taken spans rewritten; when the gate is closed or
there is no span, it is the text. -/
theorem apply_rewrites (rule : Rule) (text : Text) :
    (∀ start stop, rule.matcher = .delimited start stop → rule.matcher.isBlank = false →
      blocksFrom start stop text text.length 0 = some (rangesFrom 0 (rule.matcher.cut text).hits)) ∧
    if rule.isOpen text ∧ (rule.matcher.cut text).hits ≠ [] then
      rule.Rewrites text (rule.apply text).1 (rule.matcher.cut text).hits
    else (rule.apply text).1 = text := by
  constructor
  · intro start stop matcher nonblank
    rw [matcher] at nonblank ⊢
    have front : text = [] ++ text := rfl
    exact blocksFrom_ranges nonblank text.length none front
  · split
    · next both =>
      rw [apply_of_found both.1 both.2]
      exact splice_rewrites rule text
    · next other =>
      cases opened : rule.isOpen text with
      | false =>
        obtain ⟨gate, _, _, result⟩ := apply_of_closed opened
        rw [result]
      | true =>
        have missing : (rule.matcher.cut text).hits = [] := by
          by_contra found
          exact other ⟨opened, found⟩
        rw [apply_of_missing opened missing]

end Rule

end TextMigration
