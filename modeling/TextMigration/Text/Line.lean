import TextMigration.Text.Basic
import TextMigration.Unicode.Property

/-!
Lines of a text, trimming, and the short form of a text that messages show. A line ends with a newline,
and one carriage return before the newline belongs to the ending; a carriage return alone ends nothing.
-/

namespace TextMigration.Text

open Unicode (isBlank)

/-- The lines without their endings. What follows the last newline is a line if it is not empty. -/
def lines : Text → List Text
  | [] => []
  | '\n' :: text => [] :: lines text
  | '\r' :: '\n' :: text => [] :: lines text
  | c :: text =>
    match lines text with
    | [] => [[c]]
    | line :: rest => (c :: line) :: rest

def trim (text : Text) : Text := ((text.dropWhile isBlank).reverse.dropWhile isBlank).reverse

def previewLength : Nat := 60

def preview (text : Text) : Text :=
  let first := (lines text).headD []
  if previewLength < first.length then first.take previewLength ++ ['…'] else first

end TextMigration.Text
