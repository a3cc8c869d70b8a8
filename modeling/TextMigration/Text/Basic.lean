/-!
Texts as lists of characters. A place in a text is a way to split it, so searching answers with the
pieces around what was found and never with a number. The statements here say that `after?` and `cut?`
lose no character, and that `cut?` answers whenever the needle occurs.
-/

namespace TextMigration

abbrev Text := List Char

namespace Text

def str (text : Text) : String := String.ofList text

def byteLength (text : Text) : Nat := text.foldr (fun c length => c.utf8Size + length) 0

def after? : Text → Text → Option Text
  | [], text => some text
  | _ :: _, [] => none
  | c :: lead, d :: text => if c = d then after? lead text else none

def cut? (needle : Text) : Text → Option (Text × Text)
  | [] => if needle = [] then some ([], []) else none
  | c :: text =>
    match after? needle (c :: text) with
    | some rest => some ([], rest)
    | none => (cut? needle text).map fun (gap, rest) => (c :: gap, rest)

/-- The text has `needle` in it; the empty needle is in every text. -/
def contains (text needle : Text) : Bool := (cut? needle text).isSome

/-- Counts cut by cut; an occurrence takes at least one character, so `fuel` need not exceed the length. -/
def countFrom (needle : Text) : Nat → Text → Nat
  | 0, _ => 0
  | fuel + 1, text =>
    match cut? needle text with
    | none => 0
    | some (_, rest) => countFrom needle fuel rest + 1

/-- How often the needle occurs without overlap, from the left; the empty needle never does. -/
def count (text needle : Text) : Nat := if needle.isEmpty then 0 else countFrom needle text.length text

theorem after?_eq_some_iff {lead text rest : Text} :
    after? lead text = some rest ↔ text = lead ++ rest := by
  induction lead generalizing text with
  | nil => simp [after?, eq_comm]
  | cons c lead ih =>
    cases text with
    | nil => simp [after?]
    | cons d text =>
      by_cases same : c = d
      · simp [after?, same, ih]
      · have other : d ≠ c := fun h => same h.symm
        simp [after?, same, other]

@[simp] theorem after?_append (lead rest : Text) : after? lead (lead ++ rest) = some rest :=
  after?_eq_some_iff.mpr rfl

theorem cut?_pieces {needle text gap rest : Text} (found : cut? needle text = some (gap, rest)) :
    text = gap ++ needle ++ rest := by
  induction text generalizing gap rest with
  | nil =>
    by_cases empty : needle = []
    · simp [cut?, empty] at found
      simp [found, empty]
    · simp [cut?, empty] at found
  | cons c text ih =>
    simp only [cut?] at found
    split at found
    · next tail lead =>
      simp only [Option.some.injEq, Prod.mk.injEq] at found
      obtain ⟨rfl, rfl⟩ := found
      simpa using after?_eq_some_iff.mp lead
    · obtain ⟨⟨inner, tail⟩, hit, made⟩ := Option.map_eq_some_iff.mp found
      simp only [Prod.mk.injEq] at made
      obtain ⟨rfl, rfl⟩ := made
      simp [ih hit]

theorem cut?_isSome_of_split (gap needle rest : Text) :
    (cut? needle (gap ++ needle ++ rest)).isSome := by
  induction gap with
  | nil =>
    cases needle with
    | nil => cases rest <;> simp [cut?, after?]
    | cons c needle =>
      have lead : after? (c :: needle) (c :: (needle ++ rest)) = some rest := by
        simpa using after?_append (c :: needle) rest
      simp [cut?, lead]
  | cons c gap ih =>
    simp only [List.cons_append, cut?]
    split
    · rfl
    · simpa using ih

theorem contains_iff_infix {text needle : Text} : contains text needle = true ↔ needle <:+: text := by
  constructor
  · intro has
    obtain ⟨⟨gap, rest⟩, hit⟩ := Option.isSome_iff_exists.mp has
    exact ⟨gap, rest, (cut?_pieces hit).symm⟩
  · rintro ⟨gap, rest, rfl⟩
    exact cut?_isSome_of_split gap needle rest

end Text

end TextMigration
