import TextMigration.Text.Basic

/-!
UTF-8: the bytes of a text, and the text of bytes that are well formed. A character takes one to four
bytes; the shortest form is the only one, and surrogates have none.
-/

namespace TextMigration.Text

def encodeChar (c : Char) : List UInt8 :=
  let v := c.toNat
  if v < 0x80 then [v.toUInt8]
  else if v < 0x800 then [(0xC0 + v / 0x40).toUInt8, (0x80 + v % 0x40).toUInt8]
  else if v < 0x10000 then
    [(0xE0 + v / 0x1000).toUInt8, (0x80 + v / 0x40 % 0x40).toUInt8, (0x80 + v % 0x40).toUInt8]
  else
    [(0xF0 + v / 0x40000).toUInt8, (0x80 + v / 0x1000 % 0x40).toUInt8, (0x80 + v / 0x40 % 0x40).toUInt8,
      (0x80 + v % 0x40).toUInt8]

def encode (text : Text) : List UInt8 := text.flatMap encodeChar

def isTail (b : UInt8) : Bool := 0x80 ≤ b.toNat && b.toNat < 0xC0

def decodeChar : List UInt8 → Option (Char × Nat × List UInt8)
  | [] => none
  | a :: rest =>
    let a := a.toNat
    if a < 0x80 then some (Char.ofNat a, 1, rest)
    else if 0xC2 ≤ a ∧ a < 0xE0 then
      match rest with
      | b :: rest =>
        if isTail b then some (Char.ofNat ((a - 0xC0) * 0x40 + (b.toNat - 0x80)), 2, rest) else none
      | _ => none
    else if 0xE0 ≤ a ∧ a < 0xF0 then
      match rest with
      | b :: c :: rest =>
        let v := (a - 0xE0) * 0x1000 + (b.toNat - 0x80) * 0x40 + (c.toNat - 0x80)
        if isTail b && isTail c && 0x800 ≤ v && !(0xD800 ≤ v && v < 0xE000) then
          some (Char.ofNat v, 3, rest)
        else none
      | _ => none
    else if 0xF0 ≤ a ∧ a < 0xF5 then
      match rest with
      | b :: c :: d :: rest =>
        let v := (a - 0xF0) * 0x40000 + (b.toNat - 0x80) * 0x1000 + (c.toNat - 0x80) * 0x40 + (d.toNat - 0x80)
        if isTail b && isTail c && isTail d && 0x10000 ≤ v && v < 0x110000 then
          some (Char.ofNat v, 4, rest)
        else none
      | _ => none
    else none

def isSecond (first second : UInt8) : Bool :=
  isTail second &&
    (if first = 0xE0 then 0xA0 ≤ second.toNat
    else if first = 0xED then second.toNat < 0xA0
    else if first = 0xF0 then 0x90 ≤ second.toNat
    else if first = 0xF4 then second.toNat < 0x90
    else 0xC2 ≤ first.toNat && first.toNat < 0xF5)

/-- How many of the bytes look like a character that is then broken off by another byte; none when it is
the end that breaks it off. -/
def brokenLength : List UInt8 → Option Nat
  | [] => none
  | a :: rest =>
    if a.toNat < 0xC2 || 0xF5 ≤ a.toNat then some 1
    else
      match rest with
      | [] => none
      | [b] => if isSecond a b then none else some 1
      | [b, c] => if !isSecond a b then some 1 else if isTail c then none else some 2
      | b :: c :: _ => if !isSecond a b then some 1 else if isTail c then some 3 else some 2

/-- Why bytes are not UTF-8: how many are, and how many after them are a broken character. -/
structure Broken where
  validUpTo : Nat
  length : Option Nat
deriving DecidableEq, Repr

def Broken.message (broken : Broken) : Text :=
  match broken.length with
  | some length =>
    s!"invalid utf-8 sequence of {length} bytes from index {broken.validUpTo}".toList
  | none => s!"incomplete utf-8 byte sequence from index {broken.validUpTo}".toList

def decodeFrom : Nat → Nat → List UInt8 → Except Broken Text
  | _, _, [] => .ok []
  | 0, start, b :: rest => .error ⟨start, brokenLength (b :: rest)⟩
  | fuel + 1, start, b :: rest =>
    match decodeChar (b :: rest) with
    | none => .error ⟨start, brokenLength (b :: rest)⟩
    | some (c, size, rest) => (decodeFrom fuel (start + size) rest).map (c :: ·)

def decode (bytes : List UInt8) : Except Broken Text := decodeFrom bytes.length 0 bytes

def ofString (string : String) : Text :=
  match decode string.toByteArray.data.toList with
  | .ok text => text
  | .error _ => []

end TextMigration.Text
