import TextMigration.CommandLine.DiffView
import TextMigration.Proofs.Diffing.Replayed

/-!
The changes to a document as they are shown. Below every header stand the lines of both texts between two points, and
nothing else differs; so the hunks are told truly wherever the headers number the lines below them. That they do not
always: a header takes its places from the first and from the last block of its hunk, and such a block may be wrong
about its place in the text of which it has no line.
-/

namespace TextMigration

-- Lines keep their endings, so the lines are the text.
theorem Text.flatten_fullLines (text : Text) : text.fullLines.flatten = text := by
  fun_induction Text.fullLines text with
  | case1 => rfl
  | case2 rest ih => rw [List.flatten_cons, ih, List.singleton_append]
  | case3 rest ih => rw [List.flatten_cons, ih]; rfl
  | case4 rest _ ih => rw [List.flatten_cons, ih, List.singleton_append]
  | case5 c rest _ _ _ none ih =>
    rw [none] at ih
    rw [← ih]
    rfl
  | case6 c rest _ _ _ line lines some ih =>
    rw [some] at ih
    rw [← ih]
    rfl

namespace LineDiff

section Spreading

variable {old new : List Text} {step : Block → Point → Point → Prop} {hunk : Hunk} {hunks : List Hunk}
  {truly : List Told} {p : Point}

def Hunk.Tells (old new : List Text) (step : Block → Point → Point → Prop) (hunk : Hunk) (truth : Told) : Prop :=
  ∃ p q, hunk.Spans old new step p q ∧ truth = (rangeOf p q, hunk.lines old.toArray new.toArray)

theorem Spread.replays (leads : ∀ block p q, step block p q → block.Leads old new p q)
    (spread : Spread old new step p hunks) : ∃ truly, List.Forall₂ (Hunk.Tells old new step) hunks truly ∧
      Replays p.1 p.2 truly (old.drop p.1) (new.drop p.2) := by
  induction spread with
  | done => exact ⟨[], .nil, by simpa using Replays.done⟩
  | @gap p length hunks kept _ ih =>
    obtain ⟨truly, tells, replays⟩ := ih
    refine ⟨truly, tells, ?_⟩
    have long : ((old.drop p.1).take length).length = length := by
      have := kept.inOld
      rw [List.length_take, List.length_drop]
      omega
    rw [← List.take_append_drop length (old.drop p.1), ← List.take_append_drop length (new.drop p.2), ← kept.take_eq,
      List.drop_drop, List.drop_drop]
    exact .kept _ (by rwa [long])
  | @hunk p q hunk hunks spans _ ih =>
    obtain ⟨truly, tells, replays⟩ := ih
    have between := (spans.along.imp leads).between
    refine ⟨_, .cons ⟨p, q, spans, rfl⟩ tells, ?_⟩
    have range : rangeOf p q = ⟨p.1, (oldLines (hunk.lines old.toArray new.toArray)).length, p.2,
        (newLines (hunk.lines old.toArray new.toArray)).length⟩ := by
      simp only [rangeOf, between.oldStop, between.newStop, Nat.add_sub_cancel_left]
    rw [range, between.inOld, between.inNew]
    refine .hunk _ ?_
    rwa [← between.oldStop, ← between.newStop]

-- Whatever the headers say, below them are the right lines.
theorem told_lines (tells : List.Forall₂ (Hunk.Tells old new step) hunks truly) :
    (hunks.filterMap (Hunk.told? old new)).map Prod.snd = truly.map Prod.snd := by
  induction tells with
  | nil => rfl
  | @cons hunk truth hunks truly first _ ih =>
    obtain ⟨p, q, spans, rfl⟩ := first
    obtain ⟨_, _, _, _, _, _, _, _, header⟩ := spans.exists_header
    rw [List.filterMap_cons, Hunk.told?, header]
    simp only [Option.map_some, List.map_cons, ih]

theorem told_eq (tells : List.Forall₂ (Hunk.Tells old new step) hunks truly)
    (right : ∀ hunk ∈ hunks, ∀ p q, hunk.Spans old new step p q → hunk.header? = some (rangeOf p q)) :
    hunks.filterMap (Hunk.told? old new) = truly := by
  induction tells with
  | nil => rfl
  | @cons hunk truth hunks truly first _ ih =>
    obtain ⟨p, q, spans, rfl⟩ := first
    rw [List.filterMap_cons, Hunk.told?, right hunk List.mem_cons_self p q spans]
    simp only [Option.map_some, ih fun hunk later => right hunk (List.mem_cons_of_mem _ later)]

end Spreading

section Ranges

variable {old new : List Text} {block : Block} {hunk : Hunk} {p q r : Point}

def Block.Abuts (block : Block) (p q : Point) : Prop :=
  p = (block.oldStart, block.newStart) ∧ q = (block.oldStop, block.newStop)

/-- The blocks go through both lists, each from where the one before it says that it ends. -/
def GapFree (old new : List Text) : Prop :=
  Along Block.Abuts (0, 0) (Block.ofEdits (settle old.toArray new.toArray (script old new))) (old.length, new.length)

def Block.LeadsOn (old new : List Text) (block : Block) (p q : Point) : Prop :=
  block.Leads old new p q ∧ block.Abuts p q

theorem readsKept_leads : ReadsKept old new (Block.Leads old new) := fun _ _ _ _ _ => Iff.rfl

-- A stretch of kept lines is always where it says.
theorem readsKept_leadsOn : ReadsKept old new (Block.LeadsOn old new) := by
  intro o n length p q
  refine ⟨And.left, fun leads => ⟨leads, ?_⟩⟩
  obtain ⟨⟨_, start, stop⟩, _⟩ := leads
  exact ⟨start, stop⟩

theorem leads_functional (leads : block.Leads old new p q) (abuts : block.Abuts p r) : q = r := by
  obtain ⟨start, stop⟩ := abuts
  cases block with
  | same o n length =>
    obtain ⟨⟨_, _, stops⟩, _⟩ := leads
    exact stops.trans stop.symm
  | changed o oldLength n newLength =>
    obtain ⟨stops, _⟩ := leads
    rw [stops, stop, start]
    rfl

theorem Hunk.Spans.header_eq (spans : hunk.Spans old new (Block.LeadsOn old new) p q) :
    hunk.header? = some (rangeOf p q) := by
  obtain ⟨first, last, r, s, _, ⟨_, rfl, _⟩, _, ⟨_, _, rfl⟩, header⟩ := spans.exists_header
  exact header

/-- With the right ranges in place of the headers, what is told is true. -/
theorem exists_truth (old new : List Text) :
    ∃ truly, List.Forall₂ (Hunk.Tells old new (Block.Leads old new)) (Hunk.ofLines old new) truly ∧
      Faithful old new truly := by
  obtain ⟨truly, tells, replays⟩ :=
    (ofLines_spread readsKept_leads (blocks_lead old new)).replays fun _ _ _ leads => leads
  exact ⟨truly, tells, replays.faithful⟩

theorem exists_ranges (old new : List Text) : ∃ ranges : List Hunk.Header, ranges.length = (told old new).length ∧
    Faithful old new (ranges.zip ((told old new).map Prod.snd)) := by
  obtain ⟨truly, tells, faithful⟩ := exists_truth old new
  have lines : (told old new).map Prod.snd = truly.map Prod.snd := told_lines tells
  refine ⟨truly.map Prod.fst, ?_, ?_⟩
  · have := congrArg List.length lines
    rw [List.length_map, List.length_map] at this
    rw [List.length_map, this]
  · rwa [lines, ← List.zip_of_prod rfl rfl]

theorem faithful_told_iff (old new : List Text) :
    Faithful old new (told old new) ↔ ∀ hunk ∈ told old new, IsCounted hunk := by
  refine ⟨Faithful.counted, fun counted => ?_⟩
  obtain ⟨truly, tells, faithful⟩ := exists_truth old new
  have same : told old new = truly := by
    refine told_eq tells fun hunk member p q spans => ?_
    obtain ⟨_, _, _, _, _, _, _, _, header⟩ := spans.exists_header
    have shown : (_, hunk.lines old.toArray new.toArray) ∈ told old new :=
      List.mem_filterMap.mpr ⟨hunk, member, by rw [Hunk.told?, header]; rfl⟩
    have between := spans.along.between
    have counts := counted _ shown
    rw [header, spans.header_of_counted header]
    · rw [counts.1, between.oldStop, Nat.add_sub_cancel_left]
    · rw [counts.2, between.newStop, Nat.add_sub_cancel_left]
  rwa [same]

theorem faithful_of_gapFree (gapFree : GapFree old new) : Faithful old new (told old new) := by
  have along : Along (Block.LeadsOn old new) (0, 0) _ _ :=
    (blocks_lead old new).both (fun _ _ _ _ leads abuts => leads_functional leads abuts) gapFree
  obtain ⟨truly, tells, replays⟩ := (ofLines_spread readsKept_leadsOn along).replays fun _ _ _ leads => leads.1
  have same : told old new = truly := told_eq tells fun _ _ _ _ spans => spans.header_eq
  rw [same]
  exact replays.faithful

end Ranges

end LineDiff

namespace CommandLine.DiffView

open LineDiff (Told Faithful IsCounted GapFree told)

def names (path : Path) : Output :=
  Output.line .out ('\n' :: ("---".toList ++ ' ' :: path.text ++ ' ' :: "(original)".toList)) ++
    Output.line .out ("+++".toList ++ ' ' :: path.text ++ ' ' :: "(patched)".toList)

def shown (hunk : Told) : Output :=
  Output.line .out (header hunk.1) ++ hunk.2.map fun (mark, line) => (.out, sign mark :: ended line)

theorem changes_eq (path : Path) (before after : Text) : changes false path before after =
    names path ++ (told before.fullLines after.fullLines).flatMap shown := by
  have plain (mark : LineDiff.Mark) (line : Text) : marked false mark line = sign mark :: ended line := by
    cases mark <;> rfl
  have each : DiffView.hunk false before.fullLines.toArray after.fullLines.toArray = fun hunk =>
      (hunk.told? before.fullLines after.fullLines).toList.flatMap shown := by
    funext hunk
    rw [DiffView.hunk, LineDiff.Hunk.told?]
    cases hunk.header? with
    | none => rfl
    | some range => simp [plain, shown, Style.paint]
  rw [told, List.filterMap_eq_flatMap_toList, List.flatMap_assoc]
  simp only [changes, each, names, Style.paint, Bool.false_eq_true, if_false]

/-- The changes are shown under the names of both texts, and below every header stand the right lines: with some
ranges for headers the hunks are told truly. They are told truly as they are exactly if every header numbers the
lines below it, and always if the blocks go through both lists of lines without a gap. -/
theorem changes_faithful_iff (path : Path) (before after : Text) :
    let old := before.fullLines
    let new := after.fullLines
    changes false path before after = names path ++ (told old new).flatMap shown ∧
      (old.flatten = before ∧ new.flatten = after) ∧
      (∃ ranges : List LineDiff.Hunk.Header, ranges.length = (told old new).length ∧
        Faithful old new (ranges.zip ((told old new).map Prod.snd))) ∧
      (Faithful old new (told old new) ↔ ∀ hunk ∈ told old new, IsCounted hunk) ∧
      (GapFree old new → Faithful old new (told old new)) :=
  ⟨changes_eq path before after, ⟨before.flatten_fullLines, after.flatten_fullLines⟩, LineDiff.exists_ranges _ _,
    LineDiff.faithful_told_iff _ _, LineDiff.faithful_of_gapFree⟩

theorem changes_faithful_unended :
    let old := Text.fullLines "a\nb\nc".toList
    let new := Text.fullLines "x\na\nc\nd\n".toList
    GapFree old new ∧ Faithful old new (told old new) := by
  intro old new
  have blocks : LineDiff.Block.ofEdits (LineDiff.settle old.toArray new.toArray (LineDiff.script old new)) =
      [.changed 0 0 0 1, .same 0 1 1, .changed 1 2 2 2] := by decide +kernel
  have gapFree : GapFree old new := by
    rw [GapFree, blocks]
    exact .cons ⟨rfl, rfl⟩ (.cons ⟨rfl, rfl⟩ (.cons ⟨rfl, rfl⟩ .nil))
  exact ⟨gapFree, (changes_faithful_iff ⟨"t.txt".toList⟩ "a\nb\nc".toList "x\na\nc\nd\n".toList).2.2.2.2 gapFree⟩

/-- One line is dropped, and one is added behind the line that stays. The dropped line was read behind the added one
at first, and it keeps that place in the new text when the two pass each other. -/
theorem changes_untrue :
    let old := Text.fullLines "a\nb\n".toList
    let new := Text.fullLines "b\nb\n".toList
    (changes false ⟨"t.txt".toList⟩ "a\nb\n".toList "b\nb\n".toList).on .out =
        "\n--- t.txt (original)\n+++ t.txt (patched)\n@@ -1,1 +2,1 @@\n-a\n b\n+b\n".toList ∧
      told old new = [(⟨0, 1, 1, 1⟩, [(.dropped, ['a', '\n']), (.kept, ['b', '\n']), (.added, ['b', '\n'])])] ∧
      ¬ Faithful old new (told old new) ∧ ¬ GapFree old new := by
  intro old new
  have untrue : ¬ Faithful old new (told old new) := fun faithful =>
    absurd faithful.counted (by decide +kernel)
  exact ⟨by decide +kernel, by decide +kernel, untrue, fun gapFree => untrue (LineDiff.faithful_of_gapFree gapFree)⟩

end CommandLine.DiffView

end TextMigration
