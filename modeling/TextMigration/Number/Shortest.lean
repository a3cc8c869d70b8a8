import TextMigration.Number.Binary64
import TextMigration.Text.Basic

/-!
The shortest decimal that reads back as a given binary number. The decimals that read back fill an
interval around the number, half the way to its neighbours on both sides, with the ends included when
the significand is even. For each count of digits the two decimals around the number are tried; the
first count with one inside wins, and of two the nearer, or the greater when both are equally near. If
any decimal of that many digits lies in the interval then one of these two does, since they are the
nearest on either side.
-/

namespace TextMigration

/-- The number `digits * 10 ^ exponent`. -/
structure Decimal where
  digits : Nat
  exponent : Int
deriving DecidableEq, Repr

namespace Decimal

def mostDigits : Nat := 17

def width (n : Nat) : Nat := (Nat.toDigits 10 n).length

def scale (num den : Nat) (exponent : Int) : Nat × Nat :=
  if exponent < 0 then (num * Nat.pow 10 exponent.natAbs, den)
  else (num, den * Nat.pow 10 exponent.natAbs)

def quotient (d : Decimal) : Nat × Nat := scale d.digits 1 (-d.exponent)

/-- The least exponent of ten above the number: 10 to it is greater, and 10 to one less is not. -/
def magnitude (num den : Nat) : Int :=
  if den ≤ num then width (num / den) else 1 - width ((den - 1) / num)

def readsBack (x : Binary64) (d : Decimal) : Bool :=
  -- A number at the bottom of its power of two is closer to the neighbour below it.
  let narrow := x.significand = Nat.pow 2 52 && Binary64.leastExponent < x.exponent
  let below := if narrow then 4 * x.significand - 1 else 4 * x.significand - 2
  let (lowNum, lowDen) := Binary64.quotient ⟨below, x.exponent - 2⟩
  let (highNum, highDen) := Binary64.quotient ⟨4 * x.significand + 2, x.exponent - 2⟩
  let (num, den) := d.quotient
  if x.significand % 2 = 0 then lowNum * den ≤ num * lowDen && num * highDen ≤ highNum * den
  else lowNum * den < num * lowDen && num * highDen < highNum * den

def ofDigits (x : Binary64) (count : Nat) : Option Decimal :=
  let (num, den) := x.quotient
  let exponent := magnitude num den - count
  let (scaledNum, scaledDen) := scale num den exponent
  let floor := scaledNum / scaledDen
  let below : Decimal := ⟨floor, exponent⟩
  let above : Decimal := ⟨floor + 1, exponent⟩
  match readsBack x below, readsBack x above with
  | true, true => some (if 2 * (scaledNum % scaledDen) < scaledDen then below else above)
  | true, false => some below
  | false, true => some above
  | false, false => none

def shortest (x : Binary64) : Decimal :=
  if x.significand = 0 then ⟨0, 0⟩
  else ((List.range mostDigits).findSome? fun i => ofDigits x (i + 1)).getD ⟨0, 0⟩

def positional (d : Decimal) : Text :=
  let digits := Nat.toDigits 10 d.digits
  if 0 ≤ d.exponent then digits ++ List.replicate d.exponent.natAbs '0' ++ ['.', '0']
  else
    let places := d.exponent.natAbs
    let padded := List.replicate (places + 1 - digits.length) '0' ++ digits
    let fraction := (padded.drop (padded.length - places)).reverse.dropWhile (· == '0')
    let fraction := if fraction.isEmpty then ['0'] else fraction.reverse
    padded.take (padded.length - places) ++ ['.'] ++ fraction

end Decimal

def SignedBinary64.positional (x : SignedBinary64) : Text :=
  (if x.negative then ['-'] else []) ++ (Decimal.shortest x.magnitude).positional

end TextMigration
