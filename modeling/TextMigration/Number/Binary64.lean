/-!
Binary numbers of 53 significant bits, computed exactly on naturals. A quotient is rounded to the
nearest such number, a tie to the even one; numbers below the normal range keep the least exponent, so
that their spacing stays the same. The upper end of the range is left to those who use them, and a sign
is kept beside a number.
-/

namespace TextMigration

/-- The number `significand * 2 ^ exponent`. -/
structure Binary64 where
  significand : Nat
  exponent : Int
deriving DecidableEq, Repr

structure SignedBinary64 where
  negative : Bool
  magnitude : Binary64
deriving DecidableEq, Repr

namespace Binary64

def leastExponent : Int := -1074

def significandLimit : Nat := Nat.pow 2 53

def scale (num den : Nat) (exponent : Int) : Nat × Nat :=
  if exponent < 0 then (num * Nat.pow 2 exponent.natAbs, den)
  else (num, den * Nat.pow 2 exponent.natAbs)

/-- The nearest natural to a quotient, of two the even one. -/
def roundEven (num den : Nat) : Nat :=
  let floor := num / den
  let rest := num % den
  if 2 * rest < den then floor
  else if 2 * rest = den then (if floor % 2 = 0 then floor else floor + 1)
  else floor + 1

/-- The number of 53 bits nearest to `num / den`, for a `den` that is not zero. -/
def nearest (num den : Nat) : Binary64 :=
  if num = 0 then ⟨0, leastExponent⟩
  else
    let guess : Int := (num.log2 : Int) - (den.log2 : Int) - 53
    let scaled := scale num den guess
    let exponent := max (if scaled.1 / scaled.2 < significandLimit then guess else guess + 1) leastExponent
    let scaled := scale num den exponent
    let rounded := roundEven scaled.1 scaled.2
    if rounded < significandLimit then ⟨rounded, exponent⟩ else ⟨rounded / 2, exponent + 1⟩

def quotient (x : Binary64) : Nat × Nat := scale x.significand 1 (-x.exponent)

/-- One less the number, rounded; zero for a number above one. -/
def complement (x : Binary64) : Binary64 :=
  let (num, den) := x.quotient
  nearest (den - num) den

def times (x : Binary64) (factor : Nat) : Binary64 :=
  let (num, den) := x.quotient
  nearest (num * factor) den

def round (x : Binary64) : Nat :=
  let (num, den) := x.quotient
  roundEven num den

def isInfinite (x : Binary64) : Bool :=
  971 < x.exponent + ((x.significand.log2 : Int) - 52)

end Binary64

end TextMigration
