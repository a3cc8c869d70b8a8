import TextMigration.Text.Digit
import TextMigration.Toml.Value

/-!
Numbers of a TOML document. An underscore may stand between two digits. Whole numbers must fit in 64
bits with a sign; a number with a fraction or an exponent is rounded to the nearest that 53 bits hold,
and refused when it is beyond all of them.
-/

namespace TextMigration.Toml.Number

def digits? (base : Nat) : Text → Option Text
  | [] => none
  | [c] => if Text.isDigitOf base c then some [c] else none
  | c :: '_' :: rest =>
    if Text.isDigitOf base c then (digits? base rest).map (c :: ·) else none
  | c :: rest => if Text.isDigitOf base c then (digits? base rest).map (c :: ·) else none

def whole? (text : Text) : Option Text :=
  match digits? 10 text with
  | some ['0'] => some ['0']
  | some ('0' :: _) => none
  | found => found

def sign : Text → Bool × Text
  | '-' :: rest => (true, rest)
  | '+' :: rest => (false, rest)
  | text => (false, text)

def fits (value : Int) : Bool := -Int.pow 2 63 ≤ value && value < Int.pow 2 63

/-- A whole number: decimal with or without a sign, or in another base without one. -/
def integer? (text : Text) : Option Int := do
  let value : Int ← match text with
    | '0' :: 'x' :: rest => (digits? 16 rest).map fun d => (Text.number 16 d : Int)
    | '0' :: 'o' :: rest => (digits? 8 rest).map fun d => (Text.number 8 d : Int)
    | '0' :: 'b' :: rest => (digits? 2 rest).map fun d => (Text.number 2 d : Int)
    | _ =>
      let (negative, rest) := sign text
      (whole? rest).map fun d =>
        let magnitude : Int := Text.number 10 d
        if negative then -magnitude else magnitude
  if fits value then some value else none

/-- Beyond this power of ten every number is too great, and below its inverse every one rounds to zero. -/
def farthest : Int := 400

def scaled? (digits : Text) (exponent : Int) : Option Binary64 :=
  let significant := digits.dropWhile (· == '0')
  let magnitude := exponent + significant.length
  if significant.isEmpty ∨ magnitude < -farthest then some (Binary64.nearest 0 1)
  else if farthest < magnitude then none
  else
    let value := Text.number 10 significant
    let found :=
      if exponent < 0 then Binary64.nearest value (Nat.pow 10 exponent.natAbs)
      else Binary64.nearest (value * Nat.pow 10 exponent.natAbs) 1
    if found.isInfinite then none else some found

def exponent? (text : Text) : Option Int :=
  let (negative, rest) := sign text
  (digits? 10 rest).map fun d =>
    let magnitude : Int := Text.number 10 d
    if negative then -magnitude else magnitude

def decimal? (text : Text) : Option Binary64 := do
  let isMark (c : Char) : Bool := c = 'e' || c = 'E'
  let mantissa := text.takeWhile fun c => !isMark c
  let afterMark := text.dropWhile fun c => !isMark c
  let exponent ← if afterMark.isEmpty then some 0 else exponent? (afterMark.drop 1)
  let whole ← whole? (mantissa.takeWhile (· != '.'))
  let afterPoint := mantissa.dropWhile (· != '.')
  if afterPoint.isEmpty ∧ afterMark.isEmpty then failure
  let fraction ← if afterPoint.isEmpty then some [] else digits? 10 (afterPoint.drop 1)
  scaled? (whole ++ fraction) (exponent - fraction.length)

def real? (text : Text) : Option Real :=
  let (negative, rest) := sign text
  if rest = "inf".toList then some (.infinite negative)
  else if rest = "nan".toList then some .notANumber
  else (decimal? rest).map fun magnitude => .finite ⟨negative, magnitude⟩

end TextMigration.Toml.Number
