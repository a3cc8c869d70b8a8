import TextMigration.Text.Basic

/-!
Colours of a terminal. A styled text is put between the sequence that turns its style on and the one that
turns every style off; where the text turns styles off itself, its own style is turned on again.
-/

namespace TextMigration.CommandLine

inductive Style where
  | red
  | green
  | yellow
  | cyan
  | bold
  | dimmed
  | boldRed
  | boldGreen
  | boldYellow
deriving DecidableEq, Repr

namespace Style

def codes : Style → String
  | red => "31"
  | green => "32"
  | yellow => "33"
  | cyan => "36"
  | bold => "1"
  | dimmed => "2"
  | boldRed => "1;31"
  | boldGreen => "1;32"
  | boldYellow => "1;33"

def start (style : Style) : Text := '\x1b' :: '[' :: style.codes.toList ++ ['m']

def reset : Text := "\x1b[0m".toList

/-- The text with `more` after each place where it turns styles off. -/
def afterResets (more : Text) : Text → Text
  | '\x1b' :: '[' :: '0' :: 'm' :: rest => reset ++ more ++ afterResets more rest
  | c :: rest => c :: afterResets more rest
  | [] => []

def paint (style : Style) (colors : Bool) (text : Text) : Text :=
  if colors then style.start ++ afterResets style.start text ++ reset else text

end Style

end TextMigration.CommandLine
