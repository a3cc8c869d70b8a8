import TextMigration.Text.Utf8

/-!
UTF-8 there and back. `Spells` is the format's own rule, the bytes of a character by its number; a character is
written by it (`spells_encodeChar`) and read by it (`decodeChar_eq_some_iff`). So bytes are the encoding of a
text exactly when they are decoded to it (`decode_eq_ok_iff`).
-/

namespace TextMigration.Text

/-- The bytes of a character, by its number: the lead byte tells how many follow, each of those has six bits,
no more bytes are taken than the number needs, and surrogates have none. -/
inductive Spells : Nat → List UInt8 → Prop where
  | one {a : UInt8} (lead : a.toNat < 0x80) : Spells a.toNat [a]
  | two {a b : UInt8} (lead : 0xC2 ≤ a.toNat ∧ a.toNat < 0xE0) (tail : isTail b = true) :
    Spells ((a.toNat - 0xC0) * 0x40 + (b.toNat - 0x80)) [a, b]
  | three {v : Nat} {a b c : UInt8} (lead : 0xE0 ≤ a.toNat ∧ a.toNat < 0xF0) (second : isTail b = true)
    (third : isTail c = true)
    (same : v = (a.toNat - 0xE0) * 0x1000 + (b.toNat - 0x80) * 0x40 + (c.toNat - 0x80))
    (needed : 0x800 ≤ v) (valid : v < 0xD800 ∨ 0xE000 ≤ v) : Spells v [a, b, c]
  | four {v : Nat} {a b c d : UInt8} (lead : 0xF0 ≤ a.toNat ∧ a.toNat < 0xF5) (second : isTail b = true)
    (third : isTail c = true) (fourth : isTail d = true)
    (same : v = (a.toNat - 0xF0) * 0x40000 + (b.toNat - 0x80) * 0x1000 + (c.toNat - 0x80) * 0x40 +
      (d.toNat - 0x80))
    (needed : 0x10000 ≤ v) (valid : v < 0x110000) : Spells v [a, b, c, d]

variable {c : Char} {v size : Nat} {piece bytes rest : List UInt8} {text : Text}

theorem isTail_iff {b : UInt8} : isTail b = true ↔ 0x80 ≤ b.toNat ∧ b.toNat < 0xC0 := by
  simp [isTail]

theorem toNat_toUInt8 {n : Nat} (small : n < 0x100) : n.toUInt8.toNat = n :=
  UInt8.toNat_ofNat_of_lt' small

theorem eq_toUInt8 {a : UInt8} {n : Nat} (same : n = a.toNat) : n.toUInt8 = a := by
  rw [same]
  exact UInt8.ofNat_toNat

theorem spells_encodeChar (c : Char) : Spells c.toNat (encodeChar c) := by
  have valid : c.toNat < 0xD800 ∨ 0xDFFF < c.toNat ∧ c.toNat < 0x110000 := c.valid
  rw [encodeChar]
  generalize c.toNat = v at valid
  split
  · next small =>
    have first : v.toUInt8.toNat = v := toNat_toUInt8 (by omega)
    have spelled := Spells.one (a := v.toUInt8) (by omega)
    rwa [first] at spelled
  · split
    · have first : (0xC0 + v / 0x40).toUInt8.toNat = _ := toNat_toUInt8 (by omega)
      have second : (0x80 + v % 0x40).toUInt8.toNat = _ := toNat_toUInt8 (by omega)
      have spelled := Spells.two (a := (0xC0 + v / 0x40).toUInt8) (b := (0x80 + v % 0x40).toUInt8) (by omega)
        (isTail_iff.mpr (by omega))
      rwa [first, second, show (0xC0 + v / 0x40 - 0xC0) * 0x40 + (0x80 + v % 0x40 - 0x80) = v by omega]
        at spelled
    · split
      · have first : (0xE0 + v / 0x1000).toUInt8.toNat = _ := toNat_toUInt8 (by omega)
        have second : (0x80 + v / 0x40 % 0x40).toUInt8.toNat = _ := toNat_toUInt8 (by omega)
        have third : (0x80 + v % 0x40).toUInt8.toNat = _ := toNat_toUInt8 (by omega)
        exact .three (by omega) (isTail_iff.mpr (by omega)) (isTail_iff.mpr (by omega)) (by omega) (by omega)
          (by omega)
      · have first : (0xF0 + v / 0x40000).toUInt8.toNat = _ := toNat_toUInt8 (by omega)
        have second : (0x80 + v / 0x1000 % 0x40).toUInt8.toNat = _ := toNat_toUInt8 (by omega)
        have third : (0x80 + v / 0x40 % 0x40).toUInt8.toNat = _ := toNat_toUInt8 (by omega)
        have fourth : (0x80 + v % 0x40).toUInt8.toNat = _ := toNat_toUInt8 (by omega)
        exact .four (by omega) (isTail_iff.mpr (by omega)) (isTail_iff.mpr (by omega)) (isTail_iff.mpr (by omega))
          (by omega) (by omega) (by omega)

theorem Spells.toNat_ofNat (spelled : Spells v piece) : (Char.ofNat v).toNat = v := by
  have valid : v.isValidChar := by
    cases spelled with
    | one lead => exact .inl (by omega)
    | two lead tail =>
      have := isTail_iff.mp tail
      exact .inl (by omega)
    | three lead second third same needed valid =>
      have := isTail_iff.mp second
      have := isTail_iff.mp third
      rcases valid with low | high
      · exact .inl low
      · exact .inr ⟨by omega, by omega⟩
    | four _ _ _ _ _ needed valid => exact .inr ⟨by omega, valid⟩
  rw [Char.ofNat, dif_pos valid]
  rfl

/-- The rule has one spelling for a number, which is the one that is written. -/
theorem Spells.encodeChar_eq (spelled : Spells v piece) : encodeChar (Char.ofNat v) = piece := by
  rw [encodeChar, spelled.toNat_ofNat]
  cases spelled with
  | one lead => simp [lead]
  | two lead tail =>
    have := isTail_iff.mp tail
    rw [if_neg (by omega), if_pos (by omega)]
    simp only [List.cons.injEq, and_true]
    exact ⟨eq_toUInt8 (by omega), eq_toUInt8 (by omega)⟩
  | three lead second third same needed valid =>
    have := isTail_iff.mp second
    have := isTail_iff.mp third
    rw [if_neg (by omega), if_neg (by omega), if_pos (by omega)]
    simp only [List.cons.injEq, and_true]
    exact ⟨eq_toUInt8 (by omega), eq_toUInt8 (by omega), eq_toUInt8 (by omega)⟩
  | four lead second third fourth same needed valid =>
    have := isTail_iff.mp second
    have := isTail_iff.mp third
    have := isTail_iff.mp fourth
    rw [if_neg (by omega), if_neg (by omega), if_neg (by omega)]
    simp only [List.cons.injEq, and_true]
    exact ⟨eq_toUInt8 (by omega), eq_toUInt8 (by omega), eq_toUInt8 (by omega), eq_toUInt8 (by omega)⟩

theorem spells_of_decodeChar : decodeChar bytes = some (c, size, rest) →
    ∃ v piece, Spells v piece ∧ bytes = piece ++ rest ∧ size = piece.length ∧ c = Char.ofNat v := by
  fun_cases decodeChar bytes with
  | case2 a more v lead =>
    simp only [Option.some.injEq, Prod.mk.injEq]
    rintro ⟨rfl, rfl, rfl⟩
    exact ⟨_, _, .one lead, rfl, rfl, rfl⟩
  | case3 a v _ lead b more tail =>
    simp only [Option.some.injEq, Prod.mk.injEq]
    rintro ⟨rfl, rfl, rfl⟩
    exact ⟨_, _, .two lead tail, rfl, rfl, rfl⟩
  | case6 a w _ _ lead b d more v fits =>
    simp only [Bool.and_eq_true, decide_eq_true_eq, Bool.not_eq_true', Bool.and_eq_false_iff,
      decide_eq_false_iff_not, Nat.not_le, Nat.not_lt] at fits
    obtain ⟨⟨⟨second, third⟩, needed⟩, valid⟩ := fits
    simp only [Option.some.injEq, Prod.mk.injEq]
    rintro ⟨rfl, rfl, rfl⟩
    exact ⟨_, _, .three lead second third rfl needed valid, rfl, rfl, rfl⟩
  | case9 a w _ _ _ lead b d e more v fits =>
    simp only [Bool.and_eq_true, decide_eq_true_eq] at fits
    obtain ⟨⟨⟨⟨second, third⟩, fourth⟩, needed⟩, valid⟩ := fits
    simp only [Option.some.injEq, Prod.mk.injEq]
    rintro ⟨rfl, rfl, rfl⟩
    exact ⟨_, _, .four lead second third fourth rfl needed valid, rfl, rfl, rfl⟩
  | _ => simp

theorem Spells.decodeChar_append (spelled : Spells v piece) (rest : List UInt8) :
    decodeChar (piece ++ rest) = some (Char.ofNat v, piece.length, rest) := by
  cases spelled with
  | one lead => simp [decodeChar, lead]
  | @two a b lead tail =>
    have large : ¬ a.toNat < 0x80 := by omega
    simp [decodeChar, lead, large, tail]
  | @three v a b c lead second third same needed valid =>
    have large : ¬ a.toNat < 0x80 := by omega
    have other : ¬ (0xC2 ≤ a.toNat ∧ a.toNat < 0xE0) := by omega
    have plain : 0xD800 ≤ v → 0xE000 ≤ v := fun _ => by omega
    simpa [decodeChar, lead, large, other, second, third, ← same, needed] using plain
  | @four v a b c d lead second third fourth same needed valid =>
    have large : ¬ a.toNat < 0x80 := by omega
    have other : ¬ (0xC2 ≤ a.toNat ∧ a.toNat < 0xE0) := by omega
    have higher : ¬ (0xE0 ≤ a.toNat ∧ a.toNat < 0xF0) := by omega
    simp [decodeChar, lead, large, other, higher, second, third, fourth, ← same, needed, valid]

theorem decodeChar_eq_some_iff :
    decodeChar bytes = some (c, size, rest) ↔ bytes = encodeChar c ++ rest ∧ size = (encodeChar c).length := by
  constructor
  · intro read
    obtain ⟨v, piece, spelled, whole, length, rfl⟩ := spells_of_decodeChar read
    rw [spelled.encodeChar_eq]
    exact ⟨whole, length⟩
  · rintro ⟨rfl, rfl⟩
    rw [(spells_encodeChar c).decodeChar_append, Char.ofNat_toNat]

theorem Spells.ne_nil (spelled : Spells v piece) : piece ≠ [] := by
  cases spelled <;> simp

@[simp] theorem encode_nil : encode [] = [] := rfl

@[simp] theorem encode_cons (c : Char) (text : Text) : encode (c :: text) = encodeChar c ++ encode text := rfl

theorem encode_eq_nil_iff : encode text = [] ↔ text = [] := by
  cases text with
  | nil => simp
  | cons c text => simp [(spells_encodeChar c).ne_nil]

theorem length_lt_of_decodeChar (read : decodeChar bytes = some (c, size, rest)) : rest.length < bytes.length := by
  obtain ⟨whole, _⟩ := decodeChar_eq_some_iff.mp read
  have taken := List.length_pos_iff.mpr (spells_encodeChar c).ne_nil
  rw [whole, List.length_append]
  omega

theorem decodeFrom_eq_ok_iff {fuel start : Nat} (enough : bytes.length ≤ fuel) :
    decodeFrom fuel start bytes = .ok text ↔ bytes = encode text := by
  induction fuel generalizing start bytes text with
  | zero =>
    obtain rfl := List.length_eq_zero_iff.mp (Nat.le_zero.mp enough)
    rw [decodeFrom, Except.ok.injEq, eq_comm, eq_comm (a := []), encode_eq_nil_iff]
  | succ fuel ih =>
    cases bytes with
    | nil => rw [decodeFrom, Except.ok.injEq, eq_comm, eq_comm (a := []), encode_eq_nil_iff]
    | cons b more =>
      rw [decodeFrom]
      constructor
      · intro decoded
        split at decoded
        · simp at decoded
        · next c size rest read =>
          have shorter := length_lt_of_decodeChar read
          cases others : decodeFrom fuel (start + size) rest with
          | error broken => simp [others, Except.map] at decoded
          | ok text =>
            rw [others] at decoded
            rw [(decodeChar_eq_some_iff.mp read).1, (ih (by omega)).mp others, ← Except.ok.inj decoded, encode_cons]
      · intro whole
        cases text with
        | nil => simp at whole
        | cons c text =>
          rw [encode_cons] at whole
          have read := decodeChar_eq_some_iff.mpr ⟨whole, rfl⟩
          have shorter := length_lt_of_decodeChar read
          rw [read]
          simp only
          rw [(ih (by omega)).mpr rfl]
          rfl

theorem decode_eq_ok_iff : decode bytes = .ok text ↔ bytes = encode text :=
  decodeFrom_eq_ok_iff (Nat.le_refl _)

theorem decode_fails_iff : (∃ broken, decode bytes = .error broken) ↔ ∀ text, bytes ≠ encode text := by
  constructor
  · rintro ⟨broken, failed⟩ text whole
    rw [decode_eq_ok_iff.mpr whole] at failed
    simp at failed
  · intro foreign
    cases decoded : decode bytes with
    | error broken => exact ⟨broken, rfl⟩
    | ok text => exact absurd (decode_eq_ok_iff.mp decoded) (foreign text)

-- The numbers are the same, taken apart in another order.
theorem encodeChar_eq_utf8EncodeChar (c : Char) : encodeChar c = String.utf8EncodeChar c := by
  have valid : c.toNat < 0xD800 ∨ 0xDFFF < c.toNat ∧ c.toNat < 0x110000 := c.valid
  have number : c.val.toNat = c.toNat := rfl
  simp only [encodeChar, String.utf8EncodeChar, number]
  generalize c.toNat = v at valid
  by_cases one : v < 0x80
  · rw [if_pos one, if_pos (show v ≤ 0x7F by omega)]
  · rw [if_neg one, if_neg (show ¬ v ≤ 0x7F by omega)]
    by_cases two : v < 0x800
    · rw [if_pos two, if_pos (show v ≤ 0x7FF by omega)]
      simp only [List.cons.injEq, and_true]
      refine ⟨congrArg UInt8.ofNat ?_, congrArg UInt8.ofNat ?_⟩ <;> omega
    · rw [if_neg two, if_neg (show ¬ v ≤ 0x7FF by omega)]
      by_cases three : v < 0x10000
      · rw [if_pos three, if_pos (show v ≤ 0xFFFF by omega)]
        simp only [List.cons.injEq, and_true]
        refine ⟨congrArg UInt8.ofNat ?_, congrArg UInt8.ofNat ?_, congrArg UInt8.ofNat ?_⟩ <;> omega
      · rw [if_neg three, if_neg (show ¬ v ≤ 0xFFFF by omega)]
        simp only [List.cons.injEq, and_true]
        refine ⟨congrArg UInt8.ofNat ?_, congrArg UInt8.ofNat ?_, congrArg UInt8.ofNat ?_,
          congrArg UInt8.ofNat ?_⟩ <;> omega

theorem encode_eq_bytes (text : Text) : encode text = text.str.toByteArray.data.toList := by
  have each : encodeChar = String.utf8EncodeChar := funext encodeChar_eq_utf8EncodeChar
  rw [str, String.toByteArray_ofList, List.utf8Encode, List.toList_data_toByteArray, encode, each]

theorem ofString_eq_toList (string : String) : ofString string = string.toList := by
  have read : decode string.toByteArray.data.toList = .ok string.toList := by
    rw [decode_eq_ok_iff, encode_eq_bytes, str, String.ofList_toList]
  rw [ofString, read]

/-- Strings and the characters that each of them is made of. Found once, the characters need not be read from the
bytes again. -/
inductive Unpacked : List String → List Text → Prop where
  | nil : Unpacked [] []
  | cons (text : Text) {strings : List String} {texts : List Text} (rest : Unpacked strings texts) :
    Unpacked (String.ofList text :: strings) (text :: texts)

theorem Unpacked.lines_eq {strings : List String} {texts : List Text} (unpacked : Unpacked strings texts) :
    (strings.flatMap fun line => ofString line ++ ['\n']) = texts.flatMap fun line => line ++ ['\n'] := by
  induction unpacked with
  | nil => rfl
  | cons text _ ih => rw [List.flatMap_cons, List.flatMap_cons, ih, ofString_eq_toList, String.toList_ofList]

end TextMigration.Text
