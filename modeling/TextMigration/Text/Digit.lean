import TextMigration.Text.Basic

/-!
Digits and the numbers that they spell, in bases up to sixteen.
-/

namespace TextMigration.Text

/-- The value of a digit; letters of either case stand for ten and above. -/
def digitValue? (base : Nat) (c : Char) : Option Nat :=
  let value :=
    if '0' ≤ c ∧ c ≤ '9' then c.toNat - 48
    else if 'a' ≤ c ∧ c ≤ 'f' then c.toNat - 87
    else if 'A' ≤ c ∧ c ≤ 'F' then c.toNat - 55
    else 16
  if value < base then some value else none

def isDigitOf (base : Nat) (c : Char) : Bool := (digitValue? base c).isSome

def number (base : Nat) (digits : Text) : Nat :=
  digits.foldl (fun acc c => acc * base + (digitValue? base c).getD 0) 0

def charOfHex? (digits : Text) : Option Char :=
  let value := number 16 digits
  if value.isValidChar then some (Char.ofNat value) else none

end TextMigration.Text
