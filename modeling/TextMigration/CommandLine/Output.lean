import TextMigration.CommandLine.Style

/-!
What the command writes, to its two channels and in order.
-/

namespace TextMigration.CommandLine

inductive Channel where
  | out
  | err
deriving DecidableEq, Repr

abbrev Output := List (Channel × Text)

namespace Output

def on (channel : Channel) (output : Output) : Text :=
  (output.filter fun piece => piece.1 = channel).flatMap Prod.snd

def line (channel : Channel) (text : Text) : Output := [(channel, text ++ ['\n'])]

end Output

end TextMigration.CommandLine
