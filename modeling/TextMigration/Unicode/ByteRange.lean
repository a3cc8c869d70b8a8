import TextMigration.Text.Utf8
import TextMigration.Unicode.Range

/-!
Sets of characters as sequences of byte ranges in UTF-8: a character is in the set when its bytes lie in
the ranges of one of the sequences. A range of characters is cut where the number of bytes changes and
where only some of the characters with the same leading bytes are in it.
-/

namespace TextMigration.Unicode

abbrev ByteRange := Nat × Nat

namespace ByteRange

/-- The characters of each length in UTF-8, with how many bytes follow the first. Surrogates are left
out. -/
def lengths : List (Nat × Nat × Nat) :=
  [(0x0, 0x7F, 0), (0x80, 0x7FF, 1), (0x800, 0xD7FF, 2), (0xE000, 0xFFFF, 2), (0x10000, 0x10FFFF, 3)]

/-- Cuts a range of characters at the multiples of `block`, so that what is left in the middle has whole
blocks, and cuts that again at those of larger blocks. Each block is sixty-four times the one before. -/
def cut : Nat → Nat → Nat → Nat → Ranges
  | 0, _, first, last => [(first, last)]
  | levels + 1, block, first, last =>
    let isWhole := first % block == 0
    let front := (first / block + 1) * block
    let heads : Ranges := if isWhole then [] else [(first, front - 1)]
    let start := if isWhole then first else front
    let back := last / block * block
    if first / block = last / block then [(first, last)]
    else if start / block = last / block then heads ++ [(start, last)]
    else if last % block = block - 1 then heads ++ cut levels (block * 64) start last
    else heads ++ cut levels (block * 64) start (back - 1) ++ [(back, last)]

def bytes (point : Nat) : List Nat := (Text.encodeChar (Char.ofNat point)).map UInt8.toNat

def ofRange (range : Nat × Nat) : List (List ByteRange) :=
  lengths.flatMap fun (first, last, following) =>
    let low := max range.1 first
    let high := min range.2 last
    if low ≤ high then (cut following 64 low high).map fun (a, b) => (bytes a).zip (bytes b) else []

def ofRanges (set : Ranges) : List (List ByteRange) := set.flatMap ofRange

end ByteRange

end TextMigration.Unicode
