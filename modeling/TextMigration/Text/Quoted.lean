import TextMigration.Text.Basic
import TextMigration.Unicode.Visible

/-!
The quoted form of a text, as messages show it: between double quotes, on one line, and with nothing in
it that a reader could not see. The quote and the backslash are escaped with a backslash; tab, carriage
return, newline and NUL have short escapes; a character that cannot be shown alone is written by number.
-/

namespace TextMigration.Text

open Unicode (isPrintable)

def hexDigit (value : Nat) : Char :=
  if value < 10 then Char.ofNat (48 + value) else Char.ofNat (87 + value)

def hexDigits : Nat → Nat → Text
  | 0, _ => []
  | count + 1, value =>
    if value < 16 then List.replicate count '0' ++ [hexDigit value]
    else hexDigits count (value / 16) ++ [hexDigit (value % 16)]

def hexShort (value : Nat) : Text :=
  match (hexDigits 8 value).dropWhile (· == '0') with
  | [] => ['0']
  | digits => digits

def escape (c : Char) : Text :=
  if c = '"' then ['\\', '"']
  else if c = '\\' then ['\\', '\\']
  else if c = '\t' then ['\\', 't']
  else if c = '\r' then ['\\', 'r']
  else if c = '\n' then ['\\', 'n']
  else if c = '\x00' then ['\\', '0']
  else if !isPrintable c then ['\\', 'u', '\x7b'] ++ hexShort c.toNat ++ ['\x7d']
  else [c]

def quoted (text : Text) : Text := '"' :: text.flatMap escape ++ ['"']

end TextMigration.Text
