import TextMigration.Text.Basic

/-!
What stands between the tokens of a TOML document: blanks, comments and the ends of lines. A carriage
return ends a line only together with the newline after it.
-/

namespace TextMigration.Toml

def isSpace (c : Char) : Bool := c = ' ' || c = '\t'

/-- The character may stand in a comment or in a string; control characters may not, but for the tab. -/
def isPlain (c : Char) : Bool := c = '\t' || (0x20 ≤ c.val && c.val ≠ 0x7F)

def skipSpace (text : Text) : Text := text.dropWhile isSpace

def newline? : Text → Option Text
  | '\n' :: rest => some rest
  | '\r' :: '\n' :: rest => some rest
  | _ => none

def skipComment (text : Text) : Text :=
  match skipSpace text with
  | '#' :: rest => rest.dropWhile isPlain
  | rest => rest

/-- What follows a line that holds nothing more. The last line needs no end. -/
def endOfLine? (text : Text) : Option Text :=
  match skipComment text with
  | [] => some []
  | rest => newline? rest

def skipLines : Bool → Text → Text
  | _, [] => []
  | _, '\n' :: rest => skipLines false rest
  | _, '\r' :: '\n' :: rest => skipLines false rest
  | true, c :: rest => if isPlain c then skipLines true rest else c :: rest
  | false, c :: rest =>
    if isSpace c then skipLines false rest
    else if c = '#' then skipLines true rest
    else c :: rest

end TextMigration.Toml
