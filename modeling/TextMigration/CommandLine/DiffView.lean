import TextMigration.CommandLine.Output
import TextMigration.LineDiff.Hunk
import TextMigration.Path

/-!
The changes to a document as the command shows them, in hunks with three lines of context.
-/

namespace TextMigration.CommandLine.DiffView

open LineDiff (Hunk Mark)

def sign : Mark → Char
  | .kept => ' '
  | .dropped => '-'
  | .added => '+'

def ended (line : Text) : Text :=
  match line.getLast? with
  | some '\n' | some '\r' => line
  | _ => line ++ ['\n']

def marked (colors : Bool) (mark : Mark) (line : Text) : Text :=
  let shown := sign mark :: ended line
  match mark with
  | .kept => shown
  | .dropped => Style.red.paint colors shown
  | .added => Style.green.paint colors shown

/-- The range of a hunk in both texts. Lines count from one, even before a range without lines. -/
def header (header : Hunk.Header) : Text :=
  let old := s!"-{header.oldStart + 1},{header.oldLength}"
  let new := s!"+{header.newStart + 1},{header.newLength}"
  s!"@@ {old} {new} @@".toList

def hunk (colors : Bool) (old new : Array Text) (hunk : Hunk) : Output :=
  match hunk.header? with
  | none => []
  | some range =>
    Output.line .out (Style.cyan.paint colors (header range)) ++
      (hunk.lines old new).map fun (mark, line) => (.out, marked colors mark line)

def changes (colors : Bool) (path : Path) (before after : Text) : Output :=
  let old := before.fullLines
  let new := after.fullLines
  let name (side : String) (note : String) : Text :=
    Style.dimmed.paint colors (side.toList ++ ' ' :: path.text ++ ' ' :: note.toList)
  Output.line .out ('\n' :: name "---" "(original)") ++ Output.line .out (name "+++" "(patched)") ++
    (Hunk.ofLines old new).flatMap (hunk colors old.toArray new.toArray)

end TextMigration.CommandLine.DiffView
