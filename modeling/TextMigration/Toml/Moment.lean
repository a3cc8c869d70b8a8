import TextMigration.Text.Digit

/-!
Dates and times of a TOML document. A date is a day of the calendar, a time has seconds or not, and an
offset from universal time stands only after both. What is read is written again in one way: with `T`
between date and time, with seconds, with `Z` for universal time, and without idle zeros in the fraction.
-/

namespace TextMigration.Toml.Moment

def field? (count least most : Nat) (text : Text) : Option (Nat × Text) :=
  let digits := text.take count
  let value := Text.number 10 digits
  if digits.length = count ∧ digits.all Char.isDigit ∧ least ≤ value ∧ value ≤ most then
    some (value, text.drop count)
  else none

def isLeap (year : Nat) : Bool := year % 4 = 0 && (year % 100 ≠ 0 || year % 400 = 0)

def daysIn (year month : Nat) : Nat :=
  if month = 2 then (if isLeap year then 29 else 28)
  else if month ∈ [4, 6, 9, 11] then 30
  else 31

def date? (text : Text) : Option (Text × Text) := do
  let (year, rest) ← field? 4 0 9999 text
  let (month, rest) ← field? 2 1 12 (← Text.after? ['-'] rest)
  let (_, rest) ← field? 2 1 (daysIn year month) (← Text.after? ['-'] rest)
  return (text.take 10, rest)

/-- A fraction of a second; nine places count. -/
def fraction? (text : Text) : Option (Text × Text) :=
  match text with
  | '.' :: rest =>
    let digits := rest.takeWhile Char.isDigit
    if digits.isEmpty then none
    else
      let shown := ((digits.take 9).reverse.dropWhile (· == '0')).reverse
      some ('.' :: (if shown.isEmpty then ['0'] else shown), rest.drop digits.length)
  | _ => some ([], text)

def time? (text : Text) : Option (Text × Text) := do
  let (_, rest) ← field? 2 0 23 text
  let (_, rest) ← field? 2 0 59 (← Text.after? [':'] rest)
  match rest with
  | ':' :: rest =>
    let (_, rest) ← field? 2 0 60 rest
    let (fraction, rest) ← fraction? rest
    return (text.take 8 ++ fraction, rest)
  | _ => return (text.take 5 ++ [':', '0', '0'], rest)

def offset? (text : Text) : Option Text :=
  match text with
  | [] => some []
  | ['Z'] | ['z'] => some ['Z']
  | c :: rest =>
    if c = '+' ∨ c = '-' then do
      let (_, rest) ← field? 2 0 23 rest
      let (_, rest) ← field? 2 0 59 (← Text.after? [':'] rest)
      if rest.isEmpty then some text else none
    else none

def ofText? (text : Text) : Option Text :=
  match date? text with
  | some (date, []) => some date
  | some (date, c :: rest) =>
    if c ∈ ['T', 't', ' '] then do
      let (time, rest) ← time? rest
      let offset ← offset? rest
      return date ++ ['T'] ++ time ++ offset
    else none
  | none =>
    match time? text with
    | some (time, []) => some time
    | _ => none

end TextMigration.Toml.Moment
