import TextMigration.Text.Line
import TextMigration.Number.Binary64

/-!
The line of a text that comes closest to what a rule looked for and did not find. Two lines are compared
trimmed, by the number of single-character edits between them; the similarity is the exact fraction
`1 - edits / length`, where the length is that of the longer line. Only its written value is rounded.
-/

namespace TextMigration

/-- One row of the edit table from the row above it. `diagonal` and `above` are the entries of the row
above, `left` is the entry just made; all of them count edits between the parts read so far. -/
def nextEntries (c : Char) : Text → Nat → List Nat → Nat → List Nat
  | d :: text, diagonal, above :: rest, left =>
    let entry := min (min (above + 1) (left + 1)) (if c = d then diagonal else diagonal + 1)
    entry :: nextEntries c text above rest entry
  | _, _, _, _ => []

def nextRow (text : Text) (c : Char) : List Nat → List Nat
  | [] => []
  | first :: rest => (first + 1) :: nextEntries c text first rest (first + 1)

def editDistance (left right : Text) : Nat :=
  (left.foldl (fun row c => nextRow right c row) (List.range (right.length + 1))).getLastD 0

/-- How alike two lines are: all of `length` characters but `edits`. -/
structure Similarity where
  edits : Nat
  length : Nat
deriving DecidableEq, Repr

namespace Similarity

def between (left right : Text) : Similarity :=
  ⟨editDistance left right, max left.length right.length⟩

def isNear (s : Similarity) : Bool := 4 * s.edits ≤ s.length

def below (s t : Similarity) : Bool := t.edits * s.length < s.edits * t.length

/-- The fraction as a binary number, by one rounded division and one rounded subtraction. -/
def value (s : Similarity) : Binary64 :=
  if s.length = 0 then Binary64.nearest 1 1 else (Binary64.nearest s.edits s.length).complement

end Similarity

structure NearMiss where
  line : Nat
  text : Text
  similarity : SignedBinary64
deriving DecidableEq, Repr

structure Candidate where
  line : Nat
  text : Text
  similarity : Similarity
deriving DecidableEq, Repr

namespace NearMiss

def probe? (target : Text) : Option Text :=
  ((target.lines).map Text.trim).find? fun line => !line.isEmpty

def candidates (probe : Text) : Nat → List Text → List Candidate
  | _, [] => []
  | number, line :: rest =>
    let text := line.trim
    let similarity := Similarity.between probe text
    if !text.isEmpty && similarity.isNear then
      ⟨number, text, similarity⟩ :: candidates probe (number + 1) rest
    else candidates probe (number + 1) rest

/-- The better of the best so far and a later candidate, which has to be strictly more alike. -/
def better (best : Option Candidate) (next : Candidate) : Option Candidate :=
  match best with
  | none => some next
  | some held => if held.similarity.below next.similarity then some next else some held

def best (candidates : List Candidate) : Option Candidate := candidates.foldl better none

def nearest (haystack target : Text) : Option NearMiss := do
  let probe ← probe? target
  let found ← best (candidates probe 1 haystack.lines)
  return ⟨found.line, found.text, ⟨false, found.similarity.value⟩⟩

end NearMiss

end TextMigration
