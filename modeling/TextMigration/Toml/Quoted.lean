import TextMigration.Text.Digit
import TextMigration.Toml.Blank

/-!
Strings of a TOML document. Between double quotes the backslash escapes; between single quotes every
character stands for itself. Three quotes open a string over several lines, which drops a line end right
after the opening and keeps the others as they are.
-/

namespace TextMigration.Toml.Quoted

def coded? (count : Nat) (text : Text) : Option (Char × Text) :=
  let digits := text.take count
  if digits.length = count ∧ digits.all (Text.isDigitOf 16) then
    (Text.charOfHex? digits).map fun c => (c, text.drop count)
  else none

def escaped? : Text → Option (Char × Text)
  | 'b' :: rest => some ('\x08', rest)
  | 't' :: rest => some ('\t', rest)
  | 'n' :: rest => some ('\n', rest)
  | 'f' :: rest => some ('\x0c', rest)
  | 'r' :: rest => some ('\r', rest)
  | 'e' :: rest => some ('\x1b', rest)
  | '"' :: rest => some ('"', rest)
  | '\\' :: rest => some ('\\', rest)
  | 'x' :: rest => coded? 2 rest
  | 'u' :: rest => coded? 4 rest
  | 'U' :: rest => coded? 8 rest
  | _ => none

def skipEmpty : Text → Text
  | [] => []
  | '\n' :: rest => skipEmpty rest
  | '\r' :: '\n' :: rest => skipEmpty rest
  | c :: rest => if isSpace c then skipEmpty rest else c :: rest

/-- What follows a backslash that ends its line, from the next character on that is not blank. -/
def joined? (text : Text) : Option Text := (newline? (skipSpace text)).map skipEmpty

def basic? : Nat → Text → Option (Text × Text)
  | 0, _ => none
  | fuel + 1, text =>
    match text with
    | [] => none
    | '"' :: rest => some ([], rest)
    | '\\' :: rest => do
      let (c, rest) ← escaped? rest
      let (body, rest) ← basic? fuel rest
      return (c :: body, rest)
    | c :: rest => do
      if !isPlain c then failure
      let (body, rest) ← basic? fuel rest
      return (c :: body, rest)

def literal? : Text → Option (Text × Text)
  | [] => none
  | '\'' :: rest => some ([], rest)
  | c :: rest =>
    if isPlain c then (literal? rest).map fun (body, rest) => (c :: body, rest) else none

/-- The three quotes that close a string over several lines; up to two more belong to the string. -/
def closing? (quote : Char) (text : Text) : Option (Text × Text) := do
  let rest ← Text.after? [quote, quote, quote] text
  let extra := (rest.take 2).takeWhile (· == quote)
  return (extra, rest.drop extra.length)

def piece? (quote : Char) : Text → Option (Text × Text)
  | '\r' :: '\n' :: rest => some (['\r', '\n'], rest)
  | '\n' :: rest => some (['\n'], rest)
  | c :: rest =>
    if c = '\\' ∧ quote = '"' then
      match joined? rest with
      | some rest => some ([], rest)
      | none => (escaped? rest).map fun (c, rest) => ([c], rest)
    else if isPlain c then some ([c], rest)
    else none
  | [] => none

def lines? (quote : Char) : Nat → Text → Option (Text × Text)
  | 0, _ => none
  | fuel + 1, text =>
    match closing? quote text with
    | some done => some done
    | none => do
      let (start, rest) ← piece? quote text
      let (body, rest) ← lines? quote fuel rest
      return (start ++ body, rest)

/-- A string over several lines; a line end right after the opening quotes is dropped. -/
def block? (quote : Char) (text : Text) : Option (Text × Text) :=
  let body := (newline? text).getD text
  lines? quote (body.length + 1) body

def string? (text : Text) : Option (Text × Text) :=
  match text with
  | '"' :: '"' :: '"' :: rest => block? '"' rest
  | '\'' :: '\'' :: '\'' :: rest => block? '\'' rest
  | '"' :: rest => basic? (rest.length + 1) rest
  | '\'' :: rest => literal? rest
  | _ => none

/-- The string on one line that stands here. Only such a string may be a key. -/
def line? (text : Text) : Option (Text × Text) :=
  match text with
  | '"' :: rest => basic? (rest.length + 1) rest
  | '\'' :: rest => literal? rest
  | _ => none

end TextMigration.Toml.Quoted
